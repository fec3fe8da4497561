import Tidebook.Library.Record

/-! # Event mirrors

The indexer's own declarations of the events. Nothing but the order of the fields and of the
variants tells the bytes of one field from those of the next.
-/

namespace Tidebook.Indexer
open Tidebook.Library

def pubkey : FieldType := .bytes 32
def u16 : FieldType := .number 2
def u64 : FieldType := .number 8
def bool : FieldType := .flag
def string : FieldType := .text
def marketStatus : FieldType := .choice ["Active", "Paused"] (two_few "Active" "Paused")
def marketKind : FieldType :=
  .choice ["Spot", "Prediction", "Other"] (three_few "Spot" "Prediction" "Other")
def orderSide : FieldType := .choice ["Bid", "Ask"] (two_few "Bid" "Ask")
def adminStatus : FieldType := .choice ["Active", "Disabled"] (two_few "Active" "Disabled")

def marketInitializedEvent : Declaration where
  name := "MarketInitializedEvent"
  fields := [
    ⟨"market", pubkey⟩, ⟨"market_fees", pubkey⟩, ⟨"authority", pubkey⟩, ⟨"base_mint", pubkey⟩,
    ⟨"quote_mint", pubkey⟩, ⟨"base_vault", pubkey⟩, ⟨"quote_vault", pubkey⟩,
    ⟨"price_tick_size", u64⟩, ⟨"quantity_lot_size", u64⟩]

def marketStatusChangedEvent : Declaration where
  name := "MarketStatusChangedEvent"
  fields := [
    ⟨"market", pubkey⟩, ⟨"authority", pubkey⟩, ⟨"status", marketStatus⟩]

def marketClosedEvent : Declaration where
  name := "MarketClosedEvent"
  fields := [
    ⟨"market", pubkey⟩, ⟨"market_fees", pubkey⟩, ⟨"authority", pubkey⟩, ⟨"base_mint", pubkey⟩,
    ⟨"quote_mint", pubkey⟩, ⟨"base_vault", pubkey⟩, ⟨"quote_vault", pubkey⟩]

def marketMetadataInitializedEvent : Declaration where
  name := "MarketMetadataInitializedEvent"
  fields := [
    ⟨"metadata", pubkey⟩, ⟨"market", pubkey⟩, ⟨"authority", pubkey⟩, ⟨"base_symbol", string⟩,
    ⟨"quote_symbol", string⟩, ⟨"display_name", string⟩, ⟨"kind", marketKind⟩]

def marketMetadataUpdatedEvent : Declaration where
  name := "MarketMetadataUpdatedEvent"
  fields := [
    ⟨"metadata", pubkey⟩, ⟨"market", pubkey⟩, ⟨"authority", pubkey⟩, ⟨"base_symbol", string⟩,
    ⟨"quote_symbol", string⟩, ⟨"display_name", string⟩]

def marketMetadataClosedEvent : Declaration where
  name := "MarketMetadataClosedEvent"
  fields := [
    ⟨"metadata", pubkey⟩, ⟨"market", pubkey⟩, ⟨"authority", pubkey⟩, ⟨"kind", marketKind⟩]

def orderPlacedEvent : Declaration where
  name := "OrderPlacedEvent"
  fields := [
    ⟨"market", pubkey⟩, ⟨"order", pubkey⟩, ⟨"order_id", u64⟩, ⟨"owner", pubkey⟩,
    ⟨"side", orderSide⟩, ⟨"price", u64⟩, ⟨"quantity", u64⟩, ⟨"locked_collateral", u64⟩,
    ⟨"price_level", pubkey⟩]

def orderCanceledEvent : Declaration where
  name := "OrderCanceledEvent"
  fields := [
    ⟨"market", pubkey⟩, ⟨"order", pubkey⟩, ⟨"order_id", u64⟩, ⟨"owner", pubkey⟩,
    ⟨"side", orderSide⟩, ⟨"price", u64⟩, ⟨"canceled_quantity", u64⟩, ⟨"released_collateral", u64⟩,
    ⟨"price_level", pubkey⟩, ⟨"price_level_closed", bool⟩]

def fillEvent : Declaration where
  name := "FillEvent"
  fields := [
    ⟨"market", pubkey⟩, ⟨"maker_order", pubkey⟩, ⟨"maker_order_id", u64⟩, ⟨"maker", pubkey⟩,
    ⟨"taker", pubkey⟩, ⟨"maker_side", orderSide⟩, ⟨"execution_price", u64⟩, ⟨"base_quantity", u64⟩,
    ⟨"quote_quantity", u64⟩, ⟨"taker_fee_quote", u64⟩, ⟨"maker_remaining_quantity", u64⟩,
    ⟨"taker_remaining_quantity", u64⟩]

def traderBalanceInitializedEvent : Declaration where
  name := "TraderBalanceInitializedEvent"
  fields := [
    ⟨"market", pubkey⟩, ⟨"owner", pubkey⟩, ⟨"trader_balance", pubkey⟩]

def depositEvent : Declaration where
  name := "DepositEvent"
  fields := [
    ⟨"market", pubkey⟩, ⟨"owner", pubkey⟩, ⟨"trader_balance", pubkey⟩, ⟨"mint", pubkey⟩,
    ⟨"market_vault", pubkey⟩, ⟨"amount", u64⟩, ⟨"free_balance", u64⟩]

def withdrawalEvent : Declaration where
  name := "WithdrawalEvent"
  fields := [
    ⟨"market", pubkey⟩, ⟨"owner", pubkey⟩, ⟨"trader_balance", pubkey⟩, ⟨"mint", pubkey⟩,
    ⟨"market_vault", pubkey⟩, ⟨"amount", u64⟩, ⟨"free_balance", u64⟩]

def protocolInitializedEvent : Declaration where
  name := "ProtocolInitializedEvent"
  fields := [
    ⟨"protocol_config", pubkey⟩, ⟨"super_admin", pubkey⟩, ⟨"admin_record", pubkey⟩]

def adminAddedEvent : Declaration where
  name := "AdminAddedEvent"
  fields := [
    ⟨"admin_record", pubkey⟩, ⟨"authority", pubkey⟩, ⟨"added_by", pubkey⟩]

def adminStatusChangedEvent : Declaration where
  name := "AdminStatusChangedEvent"
  fields := [
    ⟨"admin_record", pubkey⟩, ⟨"authority", pubkey⟩, ⟨"changed_by", pubkey⟩,
    ⟨"status", adminStatus⟩]

def adminRemovedEvent : Declaration where
  name := "AdminRemovedEvent"
  fields := [
    ⟨"admin_record", pubkey⟩, ⟨"authority", pubkey⟩, ⟨"removed_by", pubkey⟩]

def takerFeeUpdatedEvent : Declaration where
  name := "TakerFeeUpdatedEvent"
  fields := [
    ⟨"protocol_config", pubkey⟩, ⟨"super_admin", pubkey⟩, ⟨"previous_taker_fee_bps", u16⟩,
    ⟨"new_taker_fee_bps", u16⟩]

def protocolFeesWithdrawnEvent : Declaration where
  name := "ProtocolFeesWithdrawnEvent"
  fields := [
    ⟨"market", pubkey⟩, ⟨"market_fees", pubkey⟩, ⟨"super_admin", pubkey⟩, ⟨"quote_mint", pubkey⟩,
    ⟨"quote_vault", pubkey⟩, ⟨"destination_quote_account", pubkey⟩, ⟨"amount", u64⟩,
    ⟨"remaining_accrued_quote_fees", u64⟩]

def testFaucetInitializedEvent : Declaration where
  name := "TestFaucetInitializedEvent"
  fields := [
    ⟨"market", pubkey⟩, ⟨"test_faucet", pubkey⟩, ⟨"faucet_authority", pubkey⟩,
    ⟨"base_mint", pubkey⟩, ⟨"quote_mint", pubkey⟩, ⟨"base_claim_amount", u64⟩,
    ⟨"quote_claim_amount", u64⟩]

def testFaucetClaimedEvent : Declaration where
  name := "TestFaucetClaimedEvent"
  fields := [
    ⟨"market", pubkey⟩, ⟨"test_faucet", pubkey⟩, ⟨"claimant", pubkey⟩, ⟨"base_amount", u64⟩,
    ⟨"quote_amount", u64⟩]

def testFaucetClosedEvent : Declaration where
  name := "TestFaucetClosedEvent"
  fields := [
    ⟨"market", pubkey⟩, ⟨"test_faucet", pubkey⟩, ⟨"authority", pubkey⟩, ⟨"base_mint", pubkey⟩,
    ⟨"quote_mint", pubkey⟩]

end Tidebook.Indexer
