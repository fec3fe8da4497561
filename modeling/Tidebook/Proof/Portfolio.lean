import Mathlib.Algebra.BigOperators.Group.List.Basic
import Tidebook.Client.WalletOverview

/-! # The portfolio counts every claim once

Every row of the wallet overview is settled by the holdings of its mint, so the amounts shown are
sums over the ledgers whatever the order in which the holdings were read.
-/

namespace Tidebook.Proof
open Library Program Client

/-- All ledgers were read, and all their markets are known. -/
structure LedgersKnown (snapshot : WalletOverview) : Prop where
  spot : ∃ rows, snapshot.spot = some rows ∧ ∀ item ∈ rows, item.market ≠ none
  predictions : ∃ rows, snapshot.predictions = some rows ∧ ∀ item ∈ rows, item.market ≠ none
  shared : snapshot.shared ≠ some none

/-! ## Amounts by ledger -/

section Amounts

variable (mint : Pubkey)

def SpotHolding.free (item : SpotHolding) : Nat :=
  item.market.elim 0 fun market =>
    (if market.baseMint = mint then item.balance.baseFree else 0) +
    (if market.quoteMint = mint then item.balance.quoteFree else 0)

def SpotHolding.locked (item : SpotHolding) : Nat :=
  item.market.elim 0 fun market =>
    (if market.baseMint = mint then item.balance.baseLocked else 0) +
    (if market.quoteMint = mint then item.balance.quoteLocked else 0)

def PredictionHolding.free (item : PredictionHolding) : Nat :=
  item.market.elim 0 fun market =>
    if market.collateralMint = mint then item.balance.collateralFree else 0

def PredictionHolding.locked (item : PredictionHolding) : Nat :=
  item.market.elim 0 fun market =>
    if market.collateralMint = mint then item.balance.collateralLocked else 0

def freeOf (snapshot : WalletOverview) : Nat :=
  ((snapshot.spot.getD []).map (SpotHolding.free mint)).sum +
  ((snapshot.predictions.getD []).map (PredictionHolding.free mint)).sum +
  (((snapshot.shared.getD none).getD []).map fun item =>
    if item.balance.mint = mint then item.balance.free else 0).sum

def lockedOf (snapshot : WalletOverview) : Nat :=
  ((snapshot.spot.getD []).map (SpotHolding.locked mint)).sum +
  ((snapshot.predictions.getD []).map (PredictionHolding.locked mint)).sum +
  (((snapshot.shared.getD none).getD []).map fun item =>
    if item.balance.mint = mint then item.balance.locked else 0).sum

end Amounts

/-! ## Mentions -/

inductive Mention where
  | held (token : TokenHolding)
  | owed (mint : Pubkey) (decimals : Nat) (label : Option (List Char)) (free locked : Nat)

namespace Mention

section Rows

variable (host : Host)

def key : Mention → Pubkey × Pubkey
  | .held token => (token.tokenProgram, token.mint)
  | .owed mint .. => (host.tokenProgramId, mint)

def amount : Mention → Option Nat
  | .held token => some token.amount
  | .owed .. => none

def free : Mention → Nat
  | .held _ => 0
  | .owed _ _ _ free _ => free

def locked : Mention → Nat
  | .held _ => 0
  | .owed _ _ _ _ locked => locked

variable (snapshot : WalletOverview)

def entry : Mention → LabelledRow
  | .held token => freshRow host snapshot token.mint token.decimals token.tokenProgram
  | .owed mint decimals .. => freshRow host snapshot mint decimals host.tokenProgramId

def update : Mention → LabelledRow → LabelledRow
  | .held token, row => hold token (seen token.decimals none row)
  | .owed _ decimals label free locked, row =>
      deposit snapshot free locked (seen decimals label row)

end Rows

end Mention

section Rows

variable (host : Host) (snapshot : WalletOverview)

def SpotHolding.mentions (item : SpotHolding) : List Mention :=
  item.market.elim [] fun market =>
    [.owed market.baseMint market.baseDecimals (item.metadata.map (·.baseSymbol))
      item.balance.baseFree item.balance.baseLocked,
     .owed market.quoteMint market.quoteDecimals (item.metadata.map (·.quoteSymbol))
      item.balance.quoteFree item.balance.quoteLocked]

def PredictionHolding.mentions (item : PredictionHolding) : List Mention :=
  item.market.elim [] fun market =>
    [.owed market.collateralMint ((Nat.toDigits 10 market.payoutPerContract).length - 1)
      (item.metadata.map (·.quoteSymbol)) item.balance.collateralFree item.balance.collateralLocked]

def SharedHolding.mention (item : SharedHolding) : Mention :=
  .owed item.balance.mint item.decimals none item.balance.free item.balance.locked

def mentions : List Mention :=
  ((snapshot.tokens.getD []).filter fun token => token.mint ∈ listed snapshot).map .held ++
  (snapshot.spot.getD []).flatMap SpotHolding.mentions ++
  (snapshot.predictions.getD []).flatMap PredictionHolding.mentions ++
  ((snapshot.shared.getD none).getD []).map SharedHolding.mention

def gathered : List LabelledRow :=
  mention (fun row : LabelledRow => rowKey row.toAssetRow) (Mention.entry host snapshot)
    (Mention.update snapshot) (mentions snapshot) []

theorem passes_gather :
    ((snapshot.shared.getD none).getD []).foldl (addShared host snapshot)
      ((snapshot.predictions.getD []).foldl (addPrediction host snapshot)
        ((snapshot.spot.getD []).foldl (addSpot host snapshot)
          ((snapshot.tokens.getD []).foldl (addToken host snapshot) []))) =
      gathered host snapshot := by
  have spot : addSpot host snapshot = fun rows item =>
      (SpotHolding.mentions item).foldl (fun rows item =>
        upsert (fun row : LabelledRow => rowKey row.toAssetRow) rows
          (Mention.entry host snapshot item) (Mention.update snapshot item)) rows := by
    funext rows item
    unfold addSpot SpotHolding.mentions
    cases item.market <;> rfl
  have predictions : addPrediction host snapshot = fun rows item =>
      (PredictionHolding.mentions item).foldl (fun rows item =>
        upsert (fun row : LabelledRow => rowKey row.toAssetRow) rows
          (Mention.entry host snapshot item) (Mention.update snapshot item)) rows := by
    funext rows item
    unfold addPrediction PredictionHolding.mentions
    cases item.market <;> rfl
  have tokens : addToken host snapshot = fun rows token =>
      if token.mint ∈ listed snapshot then
        upsert (fun row : LabelledRow => rowKey row.toAssetRow) rows
          (Mention.entry host snapshot (.held token)) (Mention.update snapshot (.held token))
      else rows := by
    funext rows token
    simp only [addToken, ite_not]
    rfl
  rw [gathered, Library.mention, mentions, List.foldl_append, List.foldl_append, List.foldl_append,
    List.foldl_map, List.foldl_map, List.foldl_flatMap, List.foldl_flatMap, List.foldl_filter,
    spot, predictions, tokens]
  simp only [decide_eq_true_eq]
  rfl

end Rows

/-! ## Contents -/

structure RowContent where
  mint : Pubkey
  tokenProgram : Pubkey
  wallet : Option Nat
  available : Option Nat
  inOrders : Option Nat
  deriving DecidableEq

def RowContent.key (content : RowContent) : Pubkey × Pubkey := (content.tokenProgram, content.mint)

def rowContent (row : AssetRow) : RowContent where
  mint := row.mint
  tokenProgram := row.tokenProgram
  wallet := row.wallet
  available := row.available
  inOrders := row.inOrders

section Contents

variable (host : Host) (snapshot : WalletOverview)

def balanceOf (walletComplete depositsComplete : Bool) (key : Pubkey × Pubkey)
    (mentions : List Mention) : RowContent where
  mint := key.2
  tokenProgram := key.1
  wallet := (mentions.filterMap fun item =>
    if item.key host = key then item.amount else none).getLast?.or
      (if walletComplete then some 0 else none)
  available :=
    if depositsComplete then
      some (mentions.map fun item => if item.key host = key then item.free else 0).sum
    else if key.1 ≠ host.tokenProgramId then some 0 else none
  inOrders :=
    if depositsComplete then
      some (mentions.map fun item => if item.key host = key then item.locked else 0).sum
    else if key.1 ≠ host.tokenProgramId then some 0 else none

theorem update_key (item : Mention) (row : LabelledRow) :
    rowKey (item.update snapshot row).toAssetRow = rowKey row.toAssetRow := by
  cases item with
  | held token => rfl
  | owed mint decimals label free locked =>
      rw [Mention.update, deposit]
      split <;> rfl

theorem entry_key (item : Mention) :
    rowKey (item.entry host snapshot).toAssetRow = item.key host := by
  cases item <;> rfl

theorem balanceOf_unmentioned {walletComplete depositsComplete : Bool} {key : Pubkey × Pubkey}
    {mentions : List Mention} (absent : ∀ item ∈ mentions, item.key host ≠ key) :
    balanceOf host walletComplete depositsComplete key mentions =
      balanceOf host walletComplete depositsComplete key [] := by
  have none_held : (mentions.filterMap fun item =>
      if item.key host = key then item.amount else none) = [] :=
    List.filterMap_eq_nil_iff.mpr fun item member => if_neg (absent item member)
  have nothing : ∀ measure : Mention → Nat,
      (mentions.map fun item => if item.key host = key then measure item else 0).sum = 0 :=
    fun measure => List.sum_eq_zero fun amount member => by
      obtain ⟨item, present, rfl⟩ := List.mem_map.mp member
      exact if_neg (absent item present)
  simp only [balanceOf, none_held, nothing, List.filterMap_nil, List.map_nil, List.sum_nil]

theorem entry_content (item : Mention) :
    rowContent (item.entry host snapshot).toAssetRow =
      balanceOf host snapshot.tokens.isSome (complete snapshot) (item.key host) [] := by
  have row (mint : Pubkey) (decimals : Nat) (program : Pubkey) :
      rowContent (freshRow host snapshot mint decimals program).toAssetRow =
        balanceOf host snapshot.tokens.isSome (complete snapshot) (program, mint) [] := by
    by_cases foreign : program = host.tokenProgramId <;>
      cases known : complete snapshot <;>
        simp [freshRow, rowContent, balanceOf, known, foreign]
  cases item with
  | held token => exact row _ _ _
  | owed mint decimals label free locked => exact row _ _ _

theorem update_content (item : Mention) (row : LabelledRow) (mentions : List Mention)
    (before : rowContent row.toAssetRow =
      balanceOf host snapshot.tokens.isSome (complete snapshot) (item.key host) mentions) :
    rowContent (item.update snapshot row).toAssetRow =
      balanceOf host snapshot.tokens.isSome (complete snapshot) (item.key host)
        (mentions ++ [item]) := by
  simp only [rowContent, balanceOf, RowContent.mk.injEq] at before ⊢
  obtain ⟨mint, program, wallet, available, inOrders⟩ := before
  cases item with
  | held token =>
      refine ⟨mint, program, ?_, ?_, ?_⟩
      · simp [Mention.update, hold, Mention.amount]
      · simp [Mention.update, hold, seen, available, Mention.free]
      · simp [Mention.update, hold, seen, inOrders, Mention.locked]
  | owed minted decimals label free locked =>
      cases known : complete snapshot with
      | false =>
          simp only [known, Bool.false_eq_true, if_false] at available inOrders ⊢
          simp [Mention.update, deposit, known, seen, mint, program, wallet, available, inOrders,
            Mention.amount]
      | true =>
          simp only [known, if_true] at available inOrders ⊢
          simp [Mention.update, deposit, known, seen, mint, program, wallet, available, inOrders,
            Mention.amount, Mention.free, Mention.locked]

theorem settled_content (mentions : List Mention) (key : Pubkey × Pubkey) :
    (settled (fun row : LabelledRow => rowKey row.toAssetRow) (Mention.entry host snapshot)
      (Mention.update snapshot) mentions key).map (fun row => rowContent row.toAssetRow) =
    if key ∈ mentions.map (Mention.key host) then
      some (balanceOf host snapshot.tokens.isSome (complete snapshot) key mentions)
    else none := by
  induction mentions using List.reverseRecOn with
  | nil => rfl
  | append_singleton mentions item ih =>
      rw [settled_snoc, entry_key]
      by_cases same : item.key host = key
      · have before : rowContent ((settled (fun row : LabelledRow => rowKey row.toAssetRow)
            (Mention.entry host snapshot) (Mention.update snapshot) mentions key).getD
              (item.entry host snapshot)).toAssetRow =
            balanceOf host snapshot.tokens.isSome (complete snapshot) (item.key host) mentions := by
          rw [same]
          split at ih
          · obtain ⟨row, known, content⟩ := Option.map_eq_some_iff.mp ih
            rw [known, Option.getD_some, content]
          · next absent =>
              rw [Option.map_eq_none_iff.mp ih, Option.getD_none, entry_content, same]
              refine (balanceOf_unmentioned host fun other present alike => absent ?_).symm
              exact alike ▸ List.mem_map_of_mem present
        rw [if_pos same, if_pos (by simp [same]), Option.map_some,
          update_content host snapshot item _ mentions before, same]
      · rw [if_neg same, ih]
        have other : key ≠ item.key host := fun alike => same alike.symm
        have unchanged : balanceOf host snapshot.tokens.isSome (complete snapshot) key
            (mentions ++ [item]) =
            balanceOf host snapshot.tokens.isSome (complete snapshot) key mentions := by
          simp [balanceOf, same]
        rw [unchanged]
        simp [other]

theorem rows_content :
    ((walletAssetRows host snapshot).map rowContent).Perm
      ((gathered host snapshot).map fun row => rowContent row.toAssetRow) := by
  have listing (listings : List ListedAsset) (rows : List LabelledRow) :
      (listings.foldl (addListing host) rows).map (fun row => rowContent row.toAssetRow) =
        rows.map fun row => rowContent row.toAssetRow := by
    induction listings generalizing rows with
    | nil => rfl
    | cons first rest ih =>
        rw [List.foldl_cons, ih, addListing, List.map_map]
        refine List.map_congr_left fun row _ => ?_
        rw [Function.comp_apply]
        split <;> rfl
  unfold walletAssetRows
  simp only [passes_gather]
  refine ((List.mergeSort_perm _ _).map rowContent).trans (.of_eq ?_)
  rw [List.map_map, ← listing (snapshot.catalog.getD [])]
  rfl

theorem contents_nodup :
    (((walletAssetRows host snapshot).map rowContent).map RowContent.key).Nodup := by
  refine (((rows_content host snapshot).map RowContent.key).nodup_iff).mpr ?_
  rw [List.map_map]
  exact nodup_mention (update_key snapshot) (mentions snapshot)

theorem mem_contents (content : RowContent) :
    content ∈ (walletAssetRows host snapshot).map rowContent ↔
      content.key ∈ (mentions snapshot).map (Mention.key host) ∧
      content = balanceOf host snapshot.tokens.isSome (complete snapshot) content.key
        (mentions snapshot) := by
  have law := settled_content host snapshot (mentions snapshot) content.key
  rw [(rows_content host snapshot).mem_iff, List.mem_map]
  constructor
  · rintro ⟨row, member, rfl⟩
    have known := (mem_mention (update_key snapshot) (mentions snapshot) row).mp member
    change settled _ _ _ _ (rowContent row.toAssetRow).key = some row at known
    rw [known, Option.map_some] at law
    split at law
    · next mentioned => exact ⟨mentioned, Option.some_inj.mp law⟩
    · nomatch law
  · rintro ⟨mentioned, same⟩
    rw [if_pos mentioned, ← same] at law
    obtain ⟨row, known, shown⟩ := Option.map_eq_some_iff.mp law
    refine ⟨row, (mem_mention (update_key snapshot) (mentions snapshot) row).mpr ?_, shown⟩
    rw [settled_key (update_key snapshot) _ _ row known, known]

end Contents

/-! ## Sums over the ledgers -/

section Sums

variable (host : Host) (snapshot : WalletOverview)

theorem complete_iff : complete snapshot = true ↔ LedgersKnown snapshot := by
  have known {T : Type} (rows : Option (List T)) (market : T → Bool) (Known : T → Prop)
      (agree : ∀ item, market item = true ↔ Known item) :
      (rows.any fun rows => rows.all market) = true ↔
        ∃ read, rows = some read ∧ ∀ item ∈ read, Known item := by
    cases rows with
    | none => simp
    | some read => simp [agree]
  unfold complete spotComplete predictionComplete
  rw [Bool.and_eq_true, Bool.and_eq_true,
    known snapshot.spot _ (fun item => item.market ≠ none) (by simp [Option.isSome_iff_ne_none]),
    known snapshot.predictions _ (fun item => item.market ≠ none)
      (by simp [Option.isSome_iff_ne_none])]
  have shared : snapshot.shared.all Option.isSome = true ↔ snapshot.shared ≠ some none := by
    rcases snapshot.shared with _ | (_ | read) <;> simp
  rw [shared]
  exact ⟨fun ⟨⟨spot, predictions⟩, shared⟩ => ⟨spot, predictions, shared⟩,
    fun ⟨spot, predictions, shared⟩ => ⟨⟨spot, predictions⟩, shared⟩⟩

theorem sum_flatMap {S T : Type} (rows : List S) (parts : S → List T) (measure : T → Nat)
    (whole : S → Nat) (adds : ∀ row, ((parts row).map measure).sum = whole row) :
    ((rows.flatMap parts).map measure).sum = (rows.map whole).sum := by
  induction rows with
  | nil => rfl
  | cons first rest ih =>
      rw [List.flatMap_cons, List.map_append, List.sum_append, ih, adds, List.map_cons,
        List.sum_cons]

theorem mentions_free (mint : Pubkey) :
    ((mentions snapshot).map fun item =>
      if item.key host = (host.tokenProgramId, mint) then item.free else 0).sum =
        freeOf mint snapshot := by
  rw [mentions, List.map_append, List.map_append, List.map_append, List.sum_append,
    List.sum_append, List.sum_append,
    sum_flatMap _ SpotHolding.mentions _ (SpotHolding.free mint) fun item => by
      unfold SpotHolding.mentions SpotHolding.free
      cases item.market <;> simp [Mention.key, Mention.free],
    sum_flatMap _ PredictionHolding.mentions _ (PredictionHolding.free mint) fun item => by
      unfold PredictionHolding.mentions PredictionHolding.free
      cases item.market <;> simp [Mention.key, Mention.free]]
  simp [freeOf, Function.comp_def, Mention.free, Mention.key, SharedHolding.mention]

theorem mentions_locked (mint : Pubkey) :
    ((mentions snapshot).map fun item =>
      if item.key host = (host.tokenProgramId, mint) then item.locked else 0).sum =
        lockedOf mint snapshot := by
  rw [mentions, List.map_append, List.map_append, List.map_append, List.sum_append,
    List.sum_append, List.sum_append,
    sum_flatMap _ SpotHolding.mentions _ (SpotHolding.locked mint) fun item => by
      unfold SpotHolding.mentions SpotHolding.locked
      cases item.market <;> simp [Mention.key, Mention.locked],
    sum_flatMap _ PredictionHolding.mentions _ (PredictionHolding.locked mint) fun item => by
      unfold PredictionHolding.mentions PredictionHolding.locked
      cases item.market <;> simp [Mention.key, Mention.locked]]
  simp [lockedOf, Function.comp_def, Mention.locked, Mention.key, SharedHolding.mention]

end Sums

/-! ## Order of the holdings -/

structure Reordered (one two : WalletOverview) : Prop where
  tokens : Option.Rel List.Perm one.tokens two.tokens
  catalog : Option.Rel List.Perm one.catalog two.catalog
  spot : Option.Rel List.Perm one.spot two.spot
  predictions : Option.Rel List.Perm one.predictions two.predictions
  shared : Option.Rel (Option.Rel List.Perm) one.shared two.shared

def OneHolding (snapshot : WalletOverview) : Prop :=
  ((snapshot.tokens.getD []).map fun token => (token.tokenProgram, token.mint)).Nodup

theorem perm_getD {T : Type} {one two : Option (List T)} (same : Option.Rel List.Perm one two) :
    (one.getD []).Perm (two.getD []) := by
  cases same with
  | some perm => exact perm
  | none => exact .refl _

section Order

variable {one two : WalletOverview} (same : Reordered one two)
include same

theorem Reordered.shared_perm :
    ((one.shared.getD none).getD []).Perm ((two.shared.getD none).getD []) := by
  have shared := same.shared
  revert shared
  generalize one.shared = first
  generalize two.shared = second
  rintro (related | _)
  · exact perm_getD related
  · exact .refl _

theorem Reordered.tokens_isSome : one.tokens.isSome = two.tokens.isSome := by
  have tokens := same.tokens
  revert tokens
  generalize one.tokens = first
  generalize two.tokens = second
  rintro (_ | _) <;> rfl

theorem Reordered.complete_eq : complete one = complete two := by
  have all {T : Type} {first second : Option (List T)} (test : T → Bool)
      (related : Option.Rel List.Perm first second) :
      (first.any fun rows => rows.all test) = second.any fun rows => rows.all test := by
    cases related with
    | some perm => exact perm.all_eq
    | none => rfl
  have shared : one.shared.all Option.isSome = two.shared.all Option.isSome := by
    have shared := same.shared
    revert shared
    generalize one.shared = first
    generalize two.shared = second
    rintro ((_ | _) | _) <;> rfl
  rw [complete, spotComplete, predictionComplete, all _ same.spot, all _ same.predictions, shared]
  rfl

theorem Reordered.listed_perm : (listed one).Perm (listed two) :=
  ((((perm_getD same.catalog).map _).append ((perm_getD same.spot).flatMap_right _)).append
    ((perm_getD same.predictions).filterMap _)).append (same.shared_perm.map _)

theorem Reordered.mentions_perm : (mentions one).Perm (mentions two) := by
  have listed_iff : ∀ mint, mint ∈ listed one ↔ mint ∈ listed two := fun _ => same.listed_perm.mem_iff
  have tokens := ((perm_getD same.tokens).filter fun token => token.mint ∈ listed one).map Mention.held
  simp only [listed_iff] at tokens
  rw [mentions, mentions]
  simp only [listed_iff]
  exact ((tokens.append ((perm_getD same.spot).flatMap_right _)).append
    ((perm_getD same.predictions).flatMap_right _)).append (same.shared_perm.map _)

end Order

theorem perm_eq_of_short {T : Type} {one two : List T} (perm : one.Perm two)
    (short : one.length ≤ 1) : one = two := by
  match one with
  | [] => exact (List.nil_perm.mp perm).symm
  | [only] => exact (List.perm_singleton.mp perm.symm).symm
  | _ :: _ :: _ => simp at short

theorem OneHolding.short {snapshot : WalletOverview} (single : OneHolding snapshot) (host : Host)
    (key : Pubkey × Pubkey) :
    ((mentions snapshot).filterMap fun item =>
      if item.key host = key then item.amount else none).length ≤ 1 := by
  have owed {T : Type} (rows : List T) (parts : T → List Mention)
      (silent : ∀ row, ∀ item ∈ parts row, item.amount = none) :
      ((rows.flatMap parts).filterMap fun item =>
        if item.key host = key then item.amount else none) = [] := by
    refine List.filterMap_eq_nil_iff.mpr fun item member => ?_
    obtain ⟨row, -, within⟩ := List.mem_flatMap.mp member
    rw [silent row item within, ite_self]
  have held (tokens : List TokenHolding)
      (distinct : (tokens.map fun token => (token.tokenProgram, token.mint)).Nodup) :
      ((tokens.map Mention.held).filterMap fun item =>
        if item.key host = key then item.amount else none).length ≤ 1 := by
    induction tokens with
    | nil => simp
    | cons first rest ih =>
        obtain ⟨unique, distinct⟩ := List.nodup_cons.mp distinct
        rw [List.map_cons, List.filterMap_cons]
        by_cases named : (first.tokenProgram, first.mint) = key
        · have nothing : ((rest.map Mention.held).filterMap fun item =>
              if item.key host = key then item.amount else none) = [] := by
            refine List.filterMap_eq_nil_iff.mpr fun item member => ?_
            obtain ⟨token, present, rfl⟩ := List.mem_map.mp member
            exact if_neg fun alike => unique (List.mem_map.mpr ⟨token, present, alike.trans named.symm⟩)
          have own : (if (Mention.held first).key host = key then (Mention.held first).amount
              else none) = some first.amount := if_pos named
          rw [own, nothing]
          simp
        · simpa [Mention.key, named] using ih distinct
  have shared : ((((snapshot.shared.getD none).getD []).map SharedHolding.mention).filterMap
      fun item => if item.key host = key then item.amount else none) = [] := by
    refine List.filterMap_eq_nil_iff.mpr fun item member => ?_
    obtain ⟨row, -, rfl⟩ := List.mem_map.mp member
    rw [SharedHolding.mention, Mention.amount, ite_self]
  rw [mentions, List.filterMap_append, List.filterMap_append, List.filterMap_append, shared,
    owed _ SpotHolding.mentions, owed _ PredictionHolding.mentions, List.append_nil,
    List.append_nil, List.append_nil]
  · exact held _ (single.sublist (List.filter_sublist.map _))
  · intro row item member
    unfold PredictionHolding.mentions at member
    cases known : row.market with
    | none => simp [known] at member
    | some market =>
        simp only [known, Option.elim_some, List.mem_singleton] at member
        rw [member]
        rfl
  · intro row item member
    unfold SpotHolding.mentions at member
    cases known : row.market with
    | none => simp [known] at member
    | some market =>
        simp only [known, Option.elim_some, List.mem_cons, List.not_mem_nil, or_false] at member
        rcases member with rfl | rfl <;> rfl

theorem balanceOf_perm {host : Host} {one two : List Mention} (perm : one.Perm two)
    {key : Pubkey × Pubkey} (walletComplete depositsComplete : Bool)
    (short : (one.filterMap fun item =>
      if item.key host = key then item.amount else none).length ≤ 1) :
    balanceOf host walletComplete depositsComplete key one =
      balanceOf host walletComplete depositsComplete key two := by
  rw [balanceOf, balanceOf, perm_eq_of_short (perm.filterMap _) short, (perm.map _).sum_eq,
    (perm.map fun item => if item.key host = key then item.locked else 0).sum_eq]

/-- One row for a mint and token program: its deposits are the sums over the ledgers of the mint, or
unknown when a ledger or a market is, and the order of the holdings does not matter. -/
theorem wallet_rows_count_once (host : Host) (snapshot : WalletOverview)
    (single : OneHolding snapshot) :
    ((walletAssetRows host snapshot).map rowKey).Nodup ∧
    (∀ row ∈ walletAssetRows host snapshot, row.tokenProgram = host.tokenProgramId →
      (LedgersKnown snapshot → row.available = some (freeOf row.mint snapshot) ∧
        row.inOrders = some (lockedOf row.mint snapshot)) ∧
      (¬LedgersKnown snapshot → row.available = none ∧ row.inOrders = none)) ∧
    (∀ mint, 0 < freeOf mint snapshot + lockedOf mint snapshot →
      ∃ row ∈ walletAssetRows host snapshot, rowKey row = (host.tokenProgramId, mint)) ∧
    ∀ other, Reordered snapshot other →
      ((walletAssetRows host snapshot).map rowContent).Perm
        ((walletAssetRows host other).map rowContent) := by
  refine ⟨?_, ?_, ?_, ?_⟩
  · have distinct := contents_nodup host snapshot
    rw [List.map_map] at distinct
    exact distinct
  · intro row member native
    obtain ⟨-, shown⟩ := (mem_contents host snapshot (rowContent row)).mp (List.mem_map_of_mem member)
    have key : (rowContent row).key = (host.tokenProgramId, row.mint) := by rw [← native]; rfl
    have available := congrArg RowContent.available shown
    have inOrders := congrArg RowContent.inOrders shown
    simp only [balanceOf, key, mentions_free, mentions_locked, ne_eq, not_true, if_false]
      at available inOrders
    rw [← complete_iff]
    constructor
    · intro known
      rw [if_pos known] at available inOrders
      exact ⟨available, inOrders⟩
    · intro unknown
      rw [if_neg unknown] at available inOrders
      exact ⟨available, inOrders⟩
  · intro mint positive
    by_contra absent
    have unmentioned : ∀ item ∈ mentions snapshot, item.key host ≠ (host.tokenProgramId, mint) := by
      intro item member named
      have content := (mem_contents host snapshot (balanceOf host snapshot.tokens.isSome
        (complete snapshot) (host.tokenProgramId, mint) (mentions snapshot))).mpr
        ⟨named ▸ List.mem_map_of_mem member, rfl⟩
      obtain ⟨row, present, shown⟩ := List.mem_map.mp content
      exact absent ⟨row, present, congrArg RowContent.key shown⟩
    have nothing : ∀ measure : Mention → Nat, ((mentions snapshot).map fun item =>
        if item.key host = (host.tokenProgramId, mint) then measure item else 0).sum = 0 :=
      fun measure => List.sum_eq_zero fun amount member => by
        obtain ⟨item, present, rfl⟩ := List.mem_map.mp member
        exact if_neg (unmentioned item present)
    rw [← mentions_free host, ← mentions_locked host, nothing, nothing] at positive
    exact absurd positive (lt_irrefl 0)
  · intro other same
    refine (List.perm_ext_iff_of_nodup (contents_nodup host snapshot).of_map
      (contents_nodup host other).of_map).mpr fun content => ?_
    rw [mem_contents, mem_contents, (same.mentions_perm.map _).mem_iff, same.tokens_isSome,
      same.complete_eq, balanceOf_perm same.mentions_perm _ _ (single.short host content.key)]

namespace Sample

def host : Host where
  tokenProgramId := .key 6
  toBase58 key := match key with
    | .key id => toString id
    | _ => "derived"
  localeCompare first second := compare first second

def overviewMarket : Market where
  authority := .key 1
  baseMint := .key 11
  quoteMint := .key 10
  status := .active
  nextOrderId := 0
  baseDecimals := 1
  quoteDecimals := 1
  priceTickSize := 1
  quantityLotSize := 1
  bestBid := none
  bestAsk := none
  openOrderCount := 0

/-- The quote token of a spot market is also held in the wallet and on a shared ledger. -/
def overview : WalletOverview where
  tokens := some [⟨.key 10, .key 6, 1, 40, 0, 1⟩, ⟨.key 12, .key 6, 1, 5, 0, 1⟩]
  catalog := some [⟨.key 10, 1, none⟩]
  spot := some [⟨some overviewMarket, none, ⟨.market (.key 11) (.key 10), .key 2, 3, 1, 20, 8⟩⟩]
  predictions := some []
  shared := some (some [⟨⟨.key 2, .key 10, 10, 4⟩, 1⟩])

theorem overview_counts_once :
    (LedgersKnown overview ∧ freeOf (.key 10) overview = 30 ∧ lockedOf (.key 10) overview = 12) ∧
    (∀ row ∈ walletAssetRows host overview, row.tokenProgram = .key 6 → row.mint = .key 10 →
      row.available = some 30 ∧ row.inOrders = some 12) ∧
    ∃ row ∈ walletAssetRows host overview, rowKey row = (.key 6, .key 10) := by
  have counted := wallet_rows_count_once host overview (by unfold OneHolding overview; decide)
  have known : LedgersKnown overview := (complete_iff overview).mp (by decide)
  have free : freeOf (.key 10) overview = 30 := by decide
  have locked : lockedOf (.key 10) overview = 12 := by decide
  refine ⟨⟨known, free, locked⟩, fun row member native mint => ?_, ?_⟩
  · have sums := (counted.2.1 row member native).1 known
    rwa [mint, free, locked] at sums
  · exact counted.2.2.1 (.key 10) (by rw [free, locked]; decide)

end Sample

end Tidebook.Proof
