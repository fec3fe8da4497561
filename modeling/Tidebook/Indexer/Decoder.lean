import Tidebook.Indexer.Logs
import Tidebook.Indexer.Types
import Tidebook.Library.Base64
import Tidebook.Library.Checked

/-! # Event decoding -/

namespace Tidebook.Indexer
open Tidebook.Library Codec

def eventDiscriminatorBytes : Nat := 8

def marketInitializedDiscriminator : Block eventDiscriminatorBytes :=
  .octet 70 173 96 202 100 143 45 25
def marketStatusChangedDiscriminator : Block eventDiscriminatorBytes :=
  .octet 189 57 199 130 179 34 39 53
def marketClosedDiscriminator : Block eventDiscriminatorBytes :=
  .octet 64 193 117 138 19 11 84 44
def marketMetadataInitializedDiscriminator : Block eventDiscriminatorBytes :=
  .octet 11 220 65 132 82 252 105 161
def marketMetadataUpdatedDiscriminator : Block eventDiscriminatorBytes :=
  .octet 185 71 148 82 13 111 45 98
def marketMetadataClosedDiscriminator : Block eventDiscriminatorBytes :=
  .octet 229 192 37 211 210 185 186 153
def orderPlacedDiscriminator : Block eventDiscriminatorBytes :=
  .octet 245 198 202 247 110 231 254 156
def orderCanceledDiscriminator : Block eventDiscriminatorBytes :=
  .octet 10 31 133 147 181 32 34 30
def fillEventDiscriminator : Block eventDiscriminatorBytes :=
  .octet 13 89 41 228 105 178 45 112
def traderBalanceInitializedDiscriminator : Block eventDiscriminatorBytes :=
  .octet 37 85 211 33 106 44 35 255
def depositEventDiscriminator : Block eventDiscriminatorBytes :=
  .octet 120 248 61 83 31 142 107 144
def withdrawalEventDiscriminator : Block eventDiscriminatorBytes :=
  .octet 161 53 185 18 98 254 54 165
def protocolInitializedDiscriminator : Block eventDiscriminatorBytes :=
  .octet 225 159 165 209 78 191 125 73
def adminAddedDiscriminator : Block eventDiscriminatorBytes :=
  .octet 68 183 187 200 190 214 20 77
def adminStatusChangedDiscriminator : Block eventDiscriminatorBytes :=
  .octet 103 168 116 72 83 249 142 91
def adminRemovedDiscriminator : Block eventDiscriminatorBytes :=
  .octet 226 5 12 53 69 56 172 132
def takerFeeUpdatedDiscriminator : Block eventDiscriminatorBytes :=
  .octet 99 217 115 77 244 244 75 248
def protocolFeesWithdrawnDiscriminator : Block eventDiscriminatorBytes :=
  .octet 142 109 101 78 169 208 188 216
def testFaucetInitializedDiscriminator : Block eventDiscriminatorBytes :=
  .octet 247 38 39 17 66 174 194 81
def testFaucetClaimedDiscriminator : Block eventDiscriminatorBytes :=
  .octet 149 47 203 239 92 155 247 96
def testFaucetClosedDiscriminator : Block eventDiscriminatorBytes :=
  .octet 169 116 71 236 191 44 241 40

inductive GovernanceEvent where
  | protocolInitialized (event : Record protocolInitializedEvent.fields)
  | adminAdded (event : Record adminAddedEvent.fields)
  | adminStatusChanged (event : Record adminStatusChangedEvent.fields)
  | adminRemoved (event : Record adminRemovedEvent.fields)
  | takerFeeUpdated (event : Record takerFeeUpdatedEvent.fields)
  deriving DecidableEq

inductive MarketEvent where
  | initialized (event : Record marketInitializedEvent.fields)
  | statusChanged (event : Record marketStatusChangedEvent.fields)
  | closed (event : Record marketClosedEvent.fields)
  | metadataInitialized (event : Record marketMetadataInitializedEvent.fields)
  | metadataUpdated (event : Record marketMetadataUpdatedEvent.fields)
  | metadataClosed (event : Record marketMetadataClosedEvent.fields)
  deriving DecidableEq

inductive OrderEvent where
  | placed (event : Record orderPlacedEvent.fields)
  | canceled (event : Record orderCanceledEvent.fields)
  deriving DecidableEq

inductive BalanceEvent where
  | initialized (event : Record traderBalanceInitializedEvent.fields)
  | deposited (event : Record depositEvent.fields)
  | withdrawn (event : Record withdrawalEvent.fields)
  deriving DecidableEq

inductive FeeEvent where
  | protocolFeesWithdrawn (event : Record protocolFeesWithdrawnEvent.fields)
  deriving DecidableEq

inductive FaucetEvent where
  | initialized (event : Record testFaucetInitializedEvent.fields)
  | claimed (event : Record testFaucetClaimedEvent.fields)
  | closed (event : Record testFaucetClosedEvent.fields)
  deriving DecidableEq

inductive TidebookEvent where
  | governance (event : GovernanceEvent)
  | market (event : MarketEvent)
  | order (event : OrderEvent)
  | fill (event : Record fillEvent.fields)
  | balance (event : BalanceEvent)
  | fee (event : FeeEvent)
  | faucet (event : FaucetEvent)
  deriving DecidableEq

structure DecodedEventEnvelope where
  logIndex : Nat
  payloadBase64 : List Char
  discriminator : Block eventDiscriminatorBytes
  body : List UInt8

structure DecodedEventLog where
  logIndex : Nat
  payloadBase64 : List Char
  event : TidebookEvent
  deriving DecidableEq

inductive EventDecodeError where
  | invalidBase64
  | missingDiscriminator (decodedLen : Nat)
  | unknownDiscriminator (discriminator : Block eventDiscriminatorBytes)
  | invalidEventBody (eventName : String)

def decodeEnvelope (rawEvent : RawEventLog) :
    Except EventDecodeError DecodedEventEnvelope := do
  let decoded ← okOr (Base64.decode rawEvent.payloadBase64) .invalidBase64
  let (discriminator, body) ← okOr ((block eventDiscriminatorBytes).decode decoded)
    (.missingDiscriminator decoded.length)
  pure {
    logIndex := rawEvent.logIndex
    payloadBase64 := rawEvent.payloadBase64
    discriminator := discriminator
    body := body }

/-- The whole body has to be taken up by the fields. -/
def decodeBody (body : List UInt8) (declared : Declaration) :
    Except EventDecodeError (Record declared.fields) :=
  okOr ((Record.codec declared.fields).read body) (.invalidEventBody declared.name)

/-- One arm of the decoder: the discriminator it takes, the mirror it reads and where that goes. -/
structure Route where
  discriminator : Block eventDiscriminatorBytes
  mirror : Declaration
  wrap : Record mirror.fields → TidebookEvent

def routes : List Route := [
  ⟨marketInitializedDiscriminator, marketInitializedEvent, (.market <| .initialized ·)⟩,
  ⟨marketStatusChangedDiscriminator, marketStatusChangedEvent, (.market <| .statusChanged ·)⟩,
  ⟨marketClosedDiscriminator, marketClosedEvent, (.market <| .closed ·)⟩,
  ⟨marketMetadataInitializedDiscriminator, marketMetadataInitializedEvent,
    (.market <| .metadataInitialized ·)⟩,
  ⟨marketMetadataUpdatedDiscriminator, marketMetadataUpdatedEvent,
    (.market <| .metadataUpdated ·)⟩,
  ⟨marketMetadataClosedDiscriminator, marketMetadataClosedEvent, (.market <| .metadataClosed ·)⟩,
  ⟨orderPlacedDiscriminator, orderPlacedEvent, (.order <| .placed ·)⟩,
  ⟨orderCanceledDiscriminator, orderCanceledEvent, (.order <| .canceled ·)⟩,
  ⟨fillEventDiscriminator, fillEvent, .fill⟩,
  ⟨traderBalanceInitializedDiscriminator, traderBalanceInitializedEvent,
    (.balance <| .initialized ·)⟩,
  ⟨depositEventDiscriminator, depositEvent, (.balance <| .deposited ·)⟩,
  ⟨withdrawalEventDiscriminator, withdrawalEvent, (.balance <| .withdrawn ·)⟩,
  ⟨protocolInitializedDiscriminator, protocolInitializedEvent,
    (.governance <| .protocolInitialized ·)⟩,
  ⟨adminAddedDiscriminator, adminAddedEvent, (.governance <| .adminAdded ·)⟩,
  ⟨adminStatusChangedDiscriminator, adminStatusChangedEvent,
    (.governance <| .adminStatusChanged ·)⟩,
  ⟨adminRemovedDiscriminator, adminRemovedEvent, (.governance <| .adminRemoved ·)⟩,
  ⟨takerFeeUpdatedDiscriminator, takerFeeUpdatedEvent, (.governance <| .takerFeeUpdated ·)⟩,
  ⟨protocolFeesWithdrawnDiscriminator, protocolFeesWithdrawnEvent,
    (.fee <| .protocolFeesWithdrawn ·)⟩,
  ⟨testFaucetInitializedDiscriminator, testFaucetInitializedEvent, (.faucet <| .initialized ·)⟩,
  ⟨testFaucetClaimedDiscriminator, testFaucetClaimedEvent, (.faucet <| .claimed ·)⟩,
  ⟨testFaucetClosedDiscriminator, testFaucetClosedEvent, (.faucet <| .closed ·)⟩]

def decodeEvent (rawEvent : RawEventLog) : Except EventDecodeError DecodedEventLog := do
  let envelope ← decodeEnvelope rawEvent
  let route ← okOr (routes.find? (·.discriminator = envelope.discriminator))
    (.unknownDiscriminator envelope.discriminator)
  let event ← decodeBody envelope.body route.mirror
  pure {
    logIndex := envelope.logIndex
    payloadBase64 := envelope.payloadBase64
    event := route.wrap event }

def TidebookEvent.eventType : TidebookEvent → String
  | .governance (.protocolInitialized _) => "ProtocolInitializedEvent"
  | .governance (.adminAdded _) => "AdminAddedEvent"
  | .governance (.adminStatusChanged _) => "AdminStatusChangedEvent"
  | .governance (.adminRemoved _) => "AdminRemovedEvent"
  | .governance (.takerFeeUpdated _) => "TakerFeeUpdatedEvent"
  | .market (.initialized _) => "MarketInitializedEvent"
  | .market (.statusChanged _) => "MarketStatusChangedEvent"
  | .market (.closed _) => "MarketClosedEvent"
  | .market (.metadataInitialized _) => "MarketMetadataInitializedEvent"
  | .market (.metadataUpdated _) => "MarketMetadataUpdatedEvent"
  | .market (.metadataClosed _) => "MarketMetadataClosedEvent"
  | .order (.placed _) => "OrderPlacedEvent"
  | .order (.canceled _) => "OrderCanceledEvent"
  | .fill _ => "FillEvent"
  | .balance (.initialized _) => "TraderBalanceInitializedEvent"
  | .balance (.deposited _) => "DepositEvent"
  | .balance (.withdrawn _) => "WithdrawalEvent"
  | .fee (.protocolFeesWithdrawn _) => "ProtocolFeesWithdrawnEvent"
  | .faucet (.initialized _) => "TestFaucetInitializedEvent"
  | .faucet (.claimed _) => "TestFaucetClaimedEvent"
  | .faucet (.closed _) => "TestFaucetClosedEvent"

/-- The mirror that an event is an instance of, with its fields. -/
def TidebookEvent.content : TidebookEvent → Σ mirror : Declaration, Record mirror.fields
  | .governance (.protocolInitialized event) => ⟨protocolInitializedEvent, event⟩
  | .governance (.adminAdded event) => ⟨adminAddedEvent, event⟩
  | .governance (.adminStatusChanged event) => ⟨adminStatusChangedEvent, event⟩
  | .governance (.adminRemoved event) => ⟨adminRemovedEvent, event⟩
  | .governance (.takerFeeUpdated event) => ⟨takerFeeUpdatedEvent, event⟩
  | .market (.initialized event) => ⟨marketInitializedEvent, event⟩
  | .market (.statusChanged event) => ⟨marketStatusChangedEvent, event⟩
  | .market (.closed event) => ⟨marketClosedEvent, event⟩
  | .market (.metadataInitialized event) => ⟨marketMetadataInitializedEvent, event⟩
  | .market (.metadataUpdated event) => ⟨marketMetadataUpdatedEvent, event⟩
  | .market (.metadataClosed event) => ⟨marketMetadataClosedEvent, event⟩
  | .order (.placed event) => ⟨orderPlacedEvent, event⟩
  | .order (.canceled event) => ⟨orderCanceledEvent, event⟩
  | .fill event => ⟨fillEvent, event⟩
  | .balance (.initialized event) => ⟨traderBalanceInitializedEvent, event⟩
  | .balance (.deposited event) => ⟨depositEvent, event⟩
  | .balance (.withdrawn event) => ⟨withdrawalEvent, event⟩
  | .fee (.protocolFeesWithdrawn event) => ⟨protocolFeesWithdrawnEvent, event⟩
  | .faucet (.initialized event) => ⟨testFaucetInitializedEvent, event⟩
  | .faucet (.claimed event) => ⟨testFaucetClaimedEvent, event⟩
  | .faucet (.closed event) => ⟨testFaucetClosedEvent, event⟩

end Tidebook.Indexer
