import Mathlib.Data.List.Nodup
import Mathlib.Data.List.Perm.Basic
import Thundermod.Control.Run

/-!
# Ledgers of published blocks

A block of memory is taken from a pool in order to be published.  If the publication
fails the block is abandoned; if it succeeds the block can later be withdrawn and given
back.  A ledger that changes in these ways only accounts for every block: it never
hands one out twice, never leaves a published block without its memory, and never gives
one back twice.
-/

namespace Control

variable {Block : Type*}

/-- What has become of the blocks of a pool. -/
structure Ledger (Block : Type*) where
  held : List Block
  published : List Block
  abandoned : List Block
  givenBackTwice : List Block

namespace Ledger

/-- Every block that is held is published or abandoned, and none of them twice. -/
structure Sound (ledger : Ledger Block) : Prop where
  nodup : ledger.held.Nodup
  accounted : ledger.held.Perm (ledger.published ++ ledger.abandoned)
  givenBackOnce : ledger.givenBackTwice = []

namespace Sound

variable {ledger : Ledger Block} (sound : ledger.Sound)

include sound

theorem published_nodup : ledger.published.Nodup :=
  (List.nodup_append.mp (sound.accounted.nodup_iff.mp sound.nodup)).1

theorem held_of_published {block : Block} (published : block ∈ ledger.published) :
    block ∈ ledger.held :=
  sound.accounted.mem_iff.mpr (List.mem_append_left _ published)

end Sound

/-- Take a block and publish it. -/
def publish (block : Block) (ledger : Ledger Block) : Ledger Block :=
  { ledger with
    held := block :: ledger.held
    published := block :: ledger.published }

/-- Take a block and fail to publish it. -/
def abandon (block : Block) (ledger : Ledger Block) : Ledger Block :=
  { ledger with
    held := block :: ledger.held
    abandoned := block :: ledger.abandoned }

variable [BEq Block]

/-- Withdraw a block from publication and give it back. -/
def giveBack (block : Block) (ledger : Ledger Block) : Ledger Block :=
  { ledger with
    held := ledger.held.erase block
    published := ledger.published.erase block }

/-- The changes that keep a ledger sound. -/
inductive Step : Ledger Block → Ledger Block → Prop
  | idle {ledger : Ledger Block} : Step ledger ledger
  | publish {ledger : Ledger Block} {block : Block} (free : block ∉ ledger.held) :
      Step ledger (ledger.publish block)
  | abandon {ledger : Ledger Block} {block : Block} (free : block ∉ ledger.held) :
      Step ledger (ledger.abandon block)
  | giveBack {ledger : Ledger Block} {block : Block} (published : block ∈ ledger.published) :
      Step ledger (ledger.giveBack block)

theorem Sound.step [LawfulBEq Block] {before after : Ledger Block} (sound : before.Sound)
    (step : Step before after) : after.Sound := by
  cases step with
  | idle => exact sound
  | publish free =>
      exact ⟨List.nodup_cons.mpr ⟨free, sound.nodup⟩, sound.accounted.cons _,
        sound.givenBackOnce⟩
  | abandon free =>
      exact ⟨List.nodup_cons.mpr ⟨free, sound.nodup⟩,
        (sound.accounted.cons _).trans List.perm_middle.symm, sound.givenBackOnce⟩
  | @giveBack block published =>
      refine ⟨sound.nodup.erase _, ?_, sound.givenBackOnce⟩
      have accounted := sound.accounted.erase block
      rwa [List.erase_append_left before.abandoned published] at accounted

end Ledger

/-! ## Publications with further data -/

section Erase

variable {Item : Type*} [BEq Item] [LawfulBEq Item] [BEq Block] [LawfulBEq Block]
  {block? : Item → Option Block}

/-- Withdrawing an item withdraws its block. -/
theorem filterMap_erase_of_some {items : List Item} {item : Item} {block : Block}
    (nodup : (items.filterMap block?).Nodup) (lies : block? item = some block)
    (member : item ∈ items) :
    (items.erase item).filterMap block? = (items.filterMap block?).erase block := by
  induction items with
  | nil => cases member
  | cons first rest ih =>
      by_cases same : first = item
      · rw [same, List.erase_cons_head, List.filterMap_cons_some lies, List.erase_cons_head]
      · have later : item ∈ rest :=
          (List.mem_cons.mp member).resolve_left fun here => same here.symm
        rw [List.erase_cons_tail (by simpa using same)]
        cases other : block? first with
        | none =>
            rw [List.filterMap_cons_none other] at nodup ⊢
            rw [List.filterMap_cons_none other, ih nodup later]
        | some block' =>
            rw [List.filterMap_cons_some other] at nodup ⊢
            obtain ⟨absent, nodup⟩ := List.nodup_cons.mp nodup
            have different : block' ≠ block := by
              rintro rfl
              exact absent (List.mem_filterMap.mpr ⟨item, later, lies⟩)
            rw [List.filterMap_cons_some other, List.erase_cons_tail (by simpa using different),
              ih nodup later]

omit [BEq Block] [LawfulBEq Block] in
/-- Withdrawing an item without a block withdraws nothing. -/
theorem filterMap_erase_of_none {items : List Item} {item : Item} (lies : block? item = none) :
    (items.erase item).filterMap block? = items.filterMap block? := by
  induction items with
  | nil => rfl
  | cons first rest ih =>
      by_cases same : first = item
      · rw [same, List.erase_cons_head, List.filterMap_cons_none lies]
      · rw [List.erase_cons_tail (by simpa using same), List.filterMap_cons, ih,
          List.filterMap_cons]

end Erase

end Control
