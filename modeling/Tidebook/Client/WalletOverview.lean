import Tidebook.Library.Rows
import Tidebook.Program.State
import Tidebook.Client.Amounts

/-! # The wallet overview

The assets of a wallet, put together from what could be read of its token accounts, of its spot,
prediction and shared ledgers and of the catalog.
-/

namespace Tidebook.Client
open Library Program

structure TokenHolding where
  mint : Pubkey
  tokenProgram : Pubkey
  decimals : Nat
  amount : Nat
  frozen : Nat
  accountCount : Nat

structure MarketMetadata where
  baseSymbol : List Char
  quoteSymbol : List Char

structure SpotHolding where
  market : Option Market
  metadata : Option MarketMetadata
  balance : TraderBalance

structure PredictionHolding where
  market : Option PredictionMarket
  metadata : Option MarketMetadata
  balance : PredictionPosition

structure SharedHolding where
  balance : AssetBalance
  decimals : Nat

structure ListedAsset where
  mint : Pubkey
  decimals : Nat
  symbol : Option (List Char)

/-- A source that could not be read is `none`; `shared` is `none` when the deployment has no shared
balances. -/
structure WalletOverview where
  tokens : Option (List TokenHolding)
  catalog : Option (List ListedAsset)
  spot : Option (List SpotHolding)
  predictions : Option (List PredictionHolding)
  shared : Option (Option (List SharedHolding))

structure AssetRow where
  mint : Pubkey
  tokenProgram : Pubkey
  decimals : Nat
  symbol : List Char
  wallet : Option Nat
  frozen : Nat
  accountCount : Nat
  available : Option Nat
  inOrders : Option Nat
  precisionIssue : Bool
  labelConflict : Bool

structure LabelledRow extends AssetRow where
  labels : List (List Char)

/-- Addresses as the host spells and compares them. -/
structure Host where
  tokenProgramId : Pubkey
  toBase58 : Pubkey → String
  localeCompare : List Char → List Char → Ordering

def devnetTokens : List (String × String) :=
  [("FggaZG7eJ5tpr2vmpNMbMCHkWkcw9n2Nhmf54g3wQwGk", "tBTC"),
   ("8KRa3QwidV2yZspR3wr4p3eNzq2KtejMbU1tZUgNLdtt", "tUSDT")]

def knownTokenSymbol (host : Host) (mint : Pubkey) : Option (List Char) :=
  (devnetTokens.lookup (host.toBase58 mint)).map String.toList

/-! ## Rows -/

def rowKey (row : AssetRow) : Pubkey × Pubkey := (row.tokenProgram, row.mint)

/-- `if (label?.trim()) labels.add(label.trim())` -/
def addLabel (label : Option (List Char)) (labels : List (List Char)) : List (List Char) :=
  match label.map trim with
  | none | some [] => labels
  | some text => if text ∈ labels then labels else labels ++ [text]

section Overview

variable (host : Host) (snapshot : WalletOverview)

def spotComplete : Bool :=
  snapshot.spot.any fun rows => rows.all fun row => row.market.isSome

def predictionComplete : Bool :=
  snapshot.predictions.any fun rows => rows.all fun row => row.market.isSome

def complete : Bool :=
  spotComplete snapshot && predictionComplete snapshot && snapshot.shared.all Option.isSome

def freshRow (mint : Pubkey) (decimals : Nat) (tokenProgram : Pubkey) : LabelledRow :=
  let walletComplete := snapshot.tokens.isSome
  let depositsKnown := complete snapshot || tokenProgram ≠ host.tokenProgramId
  { mint
    tokenProgram
    decimals
    symbol := "Token".toList
    wallet := if walletComplete then some 0 else none
    frozen := 0
    accountCount := 0
    available := if depositsKnown then some 0 else none
    inOrders := if depositsKnown then some 0 else none
    precisionIssue := false
    labelConflict := false
    labels := [] }

/-- What `get` changes in the row that it finds or adds. -/
def seen (decimals : Nat) (label : Option (List Char)) (row : LabelledRow) : LabelledRow :=
  { row with
    precisionIssue := row.precisionIssue || row.decimals ≠ decimals
    labels := addLabel label row.labels }

/-- `get`, and `change` on the row that it returns. -/
def get (rows : List LabelledRow) (mint : Pubkey) (decimals : Nat) (tokenProgram : Pubkey)
    (label : Option (List Char)) (change : LabelledRow → LabelledRow) : List LabelledRow :=
  upsert (fun row => rowKey row.toAssetRow) rows (freshRow host snapshot mint decimals tokenProgram)
    fun row => change (seen decimals label row)

def hold (token : TokenHolding) (row : LabelledRow) : LabelledRow :=
  { row with
    wallet := some token.amount
    frozen := token.frozen
    accountCount := token.accountCount }

def deposit (free locked : Nat) (row : LabelledRow) : LabelledRow :=
  if complete snapshot then
    { row with
      available := row.available.map (· + free)
      inOrders := row.inOrders.map (· + locked) }
  else row

/-! ## Passes -/

def listed : List Pubkey :=
  (snapshot.catalog.getD []).map (·.mint) ++
  ((snapshot.spot.getD []).flatMap fun item =>
    match item.market with
    | none => []
    | some market => [market.baseMint, market.quoteMint]) ++
  ((snapshot.predictions.getD []).filterMap fun item => item.market.map (·.collateralMint)) ++
  ((snapshot.shared.getD none).getD []).map (·.balance.mint)

def addToken (rows : List LabelledRow) (token : TokenHolding) : List LabelledRow :=
  if token.mint ∉ listed snapshot then rows
  else get host snapshot rows token.mint token.decimals token.tokenProgram none (hold token)

def addSpot (rows : List LabelledRow) (item : SpotHolding) : List LabelledRow :=
  match item.market with
  | none => rows
  | some market =>
      let balance := item.balance
      let rows := get host snapshot rows market.baseMint market.baseDecimals host.tokenProgramId
        (item.metadata.map (·.baseSymbol)) (deposit snapshot balance.baseFree balance.baseLocked)
      get host snapshot rows market.quoteMint market.quoteDecimals host.tokenProgramId
        (item.metadata.map (·.quoteSymbol)) (deposit snapshot balance.quoteFree balance.quoteLocked)

def addPrediction (rows : List LabelledRow) (item : PredictionHolding) : List LabelledRow :=
  match item.market with
  | none => rows
  | some market =>
      get host snapshot rows market.collateralMint
        ((Nat.toDigits 10 market.payoutPerContract).length - 1) host.tokenProgramId
        (item.metadata.map (·.quoteSymbol))
        (deposit snapshot item.balance.collateralFree item.balance.collateralLocked)

def addShared (rows : List LabelledRow) (item : SharedHolding) : List LabelledRow :=
  get host snapshot rows item.balance.mint item.decimals host.tokenProgramId none
    (deposit snapshot item.balance.free item.balance.locked)

def addListing (rows : List LabelledRow) (listing : ListedAsset) : List LabelledRow :=
  rows.map fun row =>
    if rowKey row.toAssetRow = (host.tokenProgramId, listing.mint) then
      seen listing.decimals listing.symbol row
    else row

def named (row : LabelledRow) : AssetRow :=
  { row.toAssetRow with
    symbol := match row.labels with
      | [] => (knownTokenSymbol host row.mint).getD "Token".toList
      | [label] => label
      | _ => "Token".toList
    labelConflict := row.labels.length > 1 }

/-- The order of the sort: first by symbol, then by the mint's address. -/
def rowCompare (first second : AssetRow) : Ordering :=
  (host.localeCompare first.symbol second.symbol).then
    (host.localeCompare (host.toBase58 first.mint).toList (host.toBase58 second.mint).toList)

def walletAssetRows : List AssetRow :=
  let rows := (snapshot.tokens.getD []).foldl (addToken host snapshot) []
  let rows := (snapshot.spot.getD []).foldl (addSpot host snapshot) rows
  let rows := (snapshot.predictions.getD []).foldl (addPrediction host snapshot) rows
  let rows := ((snapshot.shared.getD none).getD []).foldl (addShared host snapshot) rows
  let rows := (snapshot.catalog.getD []).foldl (addListing host) rows
  (rows.map (named host)).mergeSort fun first second => rowCompare host first second ≠ .gt

end Overview

end Tidebook.Client
