import Tidebook.Library.Base64
import Tidebook.Library.Record

/-! # Events

The events the program emits, as its interface description lists them: the discriminator and the
fields in declared order.
-/

namespace Tidebook.Program.Events
open Tidebook.Library

structure EventType where
  discriminator : Codec.Block 8
  declaration : Declaration

def pubkey : FieldType := .bytes 32
def u16 : FieldType := .number 2
def u64 : FieldType := .number 8
def bool : FieldType := .flag
def string : FieldType := .text
def marketStatus : FieldType := .choice ["Active", "Paused"] (two_few "Active" "Paused")
def marketKind : FieldType :=
  .choice ["Spot", "Prediction", "Other"] (three_few "Spot" "Prediction" "Other")
def orderSide : FieldType := .choice ["Bid", "Ask"] (two_few "Bid" "Ask")
def adminStatus : FieldType := .choice ["Active", "Disabled"] (two_few "Active" "Disabled")

def marketInitializedEvent : EventType where
  discriminator := .octet 70 173 96 202 100 143 45 25
  declaration := { name := "MarketInitializedEvent", fields := [
    ⟨"market", pubkey⟩, ⟨"market_fees", pubkey⟩, ⟨"authority", pubkey⟩, ⟨"base_mint", pubkey⟩,
    ⟨"quote_mint", pubkey⟩, ⟨"base_vault", pubkey⟩, ⟨"quote_vault", pubkey⟩,
    ⟨"price_tick_size", u64⟩, ⟨"quantity_lot_size", u64⟩] }

def marketStatusChangedEvent : EventType where
  discriminator := .octet 189 57 199 130 179 34 39 53
  declaration := { name := "MarketStatusChangedEvent", fields := [
    ⟨"market", pubkey⟩, ⟨"authority", pubkey⟩, ⟨"status", marketStatus⟩] }

def marketClosedEvent : EventType where
  discriminator := .octet 64 193 117 138 19 11 84 44
  declaration := { name := "MarketClosedEvent", fields := [
    ⟨"market", pubkey⟩, ⟨"market_fees", pubkey⟩, ⟨"authority", pubkey⟩, ⟨"base_mint", pubkey⟩,
    ⟨"quote_mint", pubkey⟩, ⟨"base_vault", pubkey⟩, ⟨"quote_vault", pubkey⟩] }

def marketMetadataInitializedEvent : EventType where
  discriminator := .octet 11 220 65 132 82 252 105 161
  declaration := { name := "MarketMetadataInitializedEvent", fields := [
    ⟨"metadata", pubkey⟩, ⟨"market", pubkey⟩, ⟨"authority", pubkey⟩, ⟨"base_symbol", string⟩,
    ⟨"quote_symbol", string⟩, ⟨"display_name", string⟩, ⟨"kind", marketKind⟩] }

def marketMetadataUpdatedEvent : EventType where
  discriminator := .octet 185 71 148 82 13 111 45 98
  declaration := { name := "MarketMetadataUpdatedEvent", fields := [
    ⟨"metadata", pubkey⟩, ⟨"market", pubkey⟩, ⟨"authority", pubkey⟩, ⟨"base_symbol", string⟩,
    ⟨"quote_symbol", string⟩, ⟨"display_name", string⟩] }

def marketMetadataClosedEvent : EventType where
  discriminator := .octet 229 192 37 211 210 185 186 153
  declaration := { name := "MarketMetadataClosedEvent", fields := [
    ⟨"metadata", pubkey⟩, ⟨"market", pubkey⟩, ⟨"authority", pubkey⟩, ⟨"kind", marketKind⟩] }

def orderPlacedEvent : EventType where
  discriminator := .octet 245 198 202 247 110 231 254 156
  declaration := { name := "OrderPlacedEvent", fields := [
    ⟨"market", pubkey⟩, ⟨"order", pubkey⟩, ⟨"order_id", u64⟩, ⟨"owner", pubkey⟩,
    ⟨"side", orderSide⟩, ⟨"price", u64⟩, ⟨"quantity", u64⟩, ⟨"locked_collateral", u64⟩,
    ⟨"price_level", pubkey⟩] }

def orderCanceledEvent : EventType where
  discriminator := .octet 10 31 133 147 181 32 34 30
  declaration := { name := "OrderCanceledEvent", fields := [
    ⟨"market", pubkey⟩, ⟨"order", pubkey⟩, ⟨"order_id", u64⟩, ⟨"owner", pubkey⟩,
    ⟨"side", orderSide⟩, ⟨"price", u64⟩, ⟨"canceled_quantity", u64⟩, ⟨"released_collateral", u64⟩,
    ⟨"price_level", pubkey⟩, ⟨"price_level_closed", bool⟩] }

def fillEvent : EventType where
  discriminator := .octet 13 89 41 228 105 178 45 112
  declaration := { name := "FillEvent", fields := [
    ⟨"market", pubkey⟩, ⟨"maker_order", pubkey⟩, ⟨"maker_order_id", u64⟩, ⟨"maker", pubkey⟩,
    ⟨"taker", pubkey⟩, ⟨"maker_side", orderSide⟩, ⟨"execution_price", u64⟩, ⟨"base_quantity", u64⟩,
    ⟨"quote_quantity", u64⟩, ⟨"taker_fee_quote", u64⟩, ⟨"maker_remaining_quantity", u64⟩,
    ⟨"taker_remaining_quantity", u64⟩] }

def traderBalanceInitializedEvent : EventType where
  discriminator := .octet 37 85 211 33 106 44 35 255
  declaration := { name := "TraderBalanceInitializedEvent", fields := [
    ⟨"market", pubkey⟩, ⟨"owner", pubkey⟩, ⟨"trader_balance", pubkey⟩] }

def depositEvent : EventType where
  discriminator := .octet 120 248 61 83 31 142 107 144
  declaration := { name := "DepositEvent", fields := [
    ⟨"market", pubkey⟩, ⟨"owner", pubkey⟩, ⟨"trader_balance", pubkey⟩, ⟨"mint", pubkey⟩,
    ⟨"market_vault", pubkey⟩, ⟨"amount", u64⟩, ⟨"free_balance", u64⟩] }

def withdrawalEvent : EventType where
  discriminator := .octet 161 53 185 18 98 254 54 165
  declaration := { name := "WithdrawalEvent", fields := [
    ⟨"market", pubkey⟩, ⟨"owner", pubkey⟩, ⟨"trader_balance", pubkey⟩, ⟨"mint", pubkey⟩,
    ⟨"market_vault", pubkey⟩, ⟨"amount", u64⟩, ⟨"free_balance", u64⟩] }

def protocolFeesWithdrawnEvent : EventType where
  discriminator := .octet 142 109 101 78 169 208 188 216
  declaration := { name := "ProtocolFeesWithdrawnEvent", fields := [
    ⟨"market", pubkey⟩, ⟨"market_fees", pubkey⟩, ⟨"super_admin", pubkey⟩, ⟨"quote_mint", pubkey⟩,
    ⟨"quote_vault", pubkey⟩, ⟨"destination_quote_account", pubkey⟩, ⟨"amount", u64⟩,
    ⟨"remaining_accrued_quote_fees", u64⟩] }

def protocolInitializedEvent : EventType where
  discriminator := .octet 225 159 165 209 78 191 125 73
  declaration := { name := "ProtocolInitializedEvent", fields := [
    ⟨"protocol_config", pubkey⟩, ⟨"super_admin", pubkey⟩, ⟨"admin_record", pubkey⟩] }

def adminAddedEvent : EventType where
  discriminator := .octet 68 183 187 200 190 214 20 77
  declaration := { name := "AdminAddedEvent", fields := [
    ⟨"admin_record", pubkey⟩, ⟨"authority", pubkey⟩, ⟨"added_by", pubkey⟩] }

def adminStatusChangedEvent : EventType where
  discriminator := .octet 103 168 116 72 83 249 142 91
  declaration := { name := "AdminStatusChangedEvent", fields := [
    ⟨"admin_record", pubkey⟩, ⟨"authority", pubkey⟩, ⟨"changed_by", pubkey⟩,
    ⟨"status", adminStatus⟩] }

def adminRemovedEvent : EventType where
  discriminator := .octet 226 5 12 53 69 56 172 132
  declaration := { name := "AdminRemovedEvent", fields := [
    ⟨"admin_record", pubkey⟩, ⟨"authority", pubkey⟩, ⟨"removed_by", pubkey⟩] }

def takerFeeUpdatedEvent : EventType where
  discriminator := .octet 99 217 115 77 244 244 75 248
  declaration := { name := "TakerFeeUpdatedEvent", fields := [
    ⟨"protocol_config", pubkey⟩, ⟨"super_admin", pubkey⟩, ⟨"previous_taker_fee_bps", u16⟩,
    ⟨"new_taker_fee_bps", u16⟩] }

def testFaucetInitializedEvent : EventType where
  discriminator := .octet 247 38 39 17 66 174 194 81
  declaration := { name := "TestFaucetInitializedEvent", fields := [
    ⟨"market", pubkey⟩, ⟨"test_faucet", pubkey⟩, ⟨"faucet_authority", pubkey⟩,
    ⟨"base_mint", pubkey⟩, ⟨"quote_mint", pubkey⟩, ⟨"base_claim_amount", u64⟩,
    ⟨"quote_claim_amount", u64⟩] }

def testFaucetClaimedEvent : EventType where
  discriminator := .octet 149 47 203 239 92 155 247 96
  declaration := { name := "TestFaucetClaimedEvent", fields := [
    ⟨"market", pubkey⟩, ⟨"test_faucet", pubkey⟩, ⟨"claimant", pubkey⟩, ⟨"base_amount", u64⟩,
    ⟨"quote_amount", u64⟩] }

def testFaucetClosedEvent : EventType where
  discriminator := .octet 169 116 71 236 191 44 241 40
  declaration := { name := "TestFaucetClosedEvent", fields := [
    ⟨"market", pubkey⟩, ⟨"test_faucet", pubkey⟩, ⟨"authority", pubkey⟩, ⟨"base_mint", pubkey⟩,
    ⟨"quote_mint", pubkey⟩] }

def emittedEvents : List EventType :=
  [marketInitializedEvent, marketStatusChangedEvent, marketClosedEvent,
   marketMetadataInitializedEvent, marketMetadataUpdatedEvent, marketMetadataClosedEvent,
   orderPlacedEvent, orderCanceledEvent, fillEvent, traderBalanceInitializedEvent, depositEvent,
   withdrawalEvent, protocolFeesWithdrawnEvent, protocolInitializedEvent, adminAddedEvent,
   adminStatusChangedEvent, adminRemovedEvent, takerFeeUpdatedEvent, testFaucetInitializedEvent,
   testFaucetClaimedEvent, testFaucetClosedEvent]

def EventType.Content (type : EventType) : Type := Record type.declaration.fields

def EventType.bytes (type : EventType) (content : type.Content) : List UInt8 :=
  type.discriminator.val ++ (Record.codec type.declaration.fields).encode content

/-- The text of the data line that the runtime writes for an emitted event. -/
def emit (type : EventType) (content : type.Content) : List Char :=
  Base64.encode (type.bytes content)

end Tidebook.Program.Events
