import Obscuro.Enclave.BlockProcessor

/-!
# The fork `LCA` finds

`gethutil.LCA` and `internalLCA` (`go/common/gethutil/gethutil.go`), as `BlockProcessor`
models them, with `ChainFork.IsFork` (`go/common/types.go`). The heights are those the code
compares, `NumberU64()`, and the store is the enclave's `block` table, which answers a hash
with the block of that hash.

The walk keeps an invariant, `Meeting`: the two current blocks are stored, `a` is their
deepest common ancestor, each has a walk down to `a`, and neither is at the genesis height
unless they have met. Each branch of `internalLCA` keeps it (`Meeting.stepNew`,
`Meeting.stepOld`, `Meeting.stepBoth`), and a walk that has met ends at `a`
(`Meeting.done`); the genesis shortcut of the code only fires once both sides are at height
`0`, where a common ancestor leaves no choice.

Main result:

* `LCA_chainFork` — in a store where every stored parent is one height below its child, for
  two stored blocks above the genesis height with a common ancestor, `LCA` returns their
  deepest common ancestor, the new head's ancestors strictly above it, and the old head with
  its ancestors strictly above it; it reports a fork exactly when the old head is not an
  ancestor-or-self of the new one.
-/

namespace Obscuro.BlockProcessor

open EnclaveDB ParentWalk

/-- The height the code compares, `NumberU64()`. -/
def height (b : L1Block) : Nat := b.NumberU64.toNat

/-- The stored blocks as parent links, with the code's heights. -/
def heightLinks (db : DB) : Links String L1BlockHash L1Block :=
  ⟨FetchBlock db, L1Block.parentHash, height⟩

/-! ## The store and the heights -/

/-- The block table answers a hash with a block of that hash. -/
theorem FetchBlock_hash {db : DB} {hash : L1BlockHash} {b : L1Block}
    (h : FetchBlock db hash = .ok b) : b.hash = hash := by
  unfold FetchBlock at h
  split at h
  · rename_i r hfind
    cases h
    simpa using List.find?_some hfind
  · cases h

/-- A stored block is what its own hash fetches. -/
theorem FetchBlock_of_isStored {db : DB} {b : L1Block} (hb : IsStored (heightLinks db) b) :
    FetchBlock db b.hash = .ok b := by
  obtain ⟨hash, h⟩ := hb
  rw [FetchBlock_hash h]
  exact h

/-- Two stored blocks of one hash are one block. -/
theorem eq_of_hash_eq {db : DB} {x y : L1Block} (hx : IsStored (heightLinks db) x)
    (hy : IsStored (heightLinks db) y) (h : x.hash = y.hash) : x = y := by
  have hx' := FetchBlock_of_isStored hx
  rw [h, FetchBlock_of_isStored hy] at hx'
  cases hx'
  rfl

/-- What the block table returns is one of its rows. -/
theorem FetchBlock_mem {db : DB} {hash : L1BlockHash} {b : L1Block}
    (h : FetchBlock db hash = .ok b) : ∃ r ∈ db.blocks, r.header = b := by
  unfold FetchBlock at h
  split at h
  · rename_i r hfind
    cases h
    exact ⟨r, List.mem_of_find?_eq_some hfind, rfl⟩
  · cases h

/-- Every row whose parent is stored sits one height above it: a check of a concrete table. -/
def parentsOneLower (db : DB) : Bool :=
  db.blocks.all fun r =>
    match FetchBlock db r.header.parentHash with
    | .ok p => height p + 1 == height r.header
    | .error _ => true

theorem wellFormed_of_parentsOneLower {db : DB} (h : parentsOneLower db = true) :
    WellFormed (heightLinks db) := by
  intro hash b p hb hp
  obtain ⟨r, hr, rfl⟩ := FetchBlock_mem hb
  have hrow := List.all_eq_true.mp h r hr
  change FetchBlock db r.header.parentHash = .ok p at hp
  rw [hp] at hrow
  simpa [heightLinks] using hrow

theorem NumberU64_eq_genesis_iff (b : L1Block) :
    b.NumberU64 = UInt64.ofNat L1GenesisHeight ↔ height b = 0 := by
  rw [← UInt64.toNat_inj]
  simp [height, L1GenesisHeight]

theorem NumberU64_lt_iff (a b : L1Block) : a.NumberU64 < b.NumberU64 ↔ height a < height b :=
  UInt64.lt_iff_toNat_lt

/-- The code's height is the block number's low 64 bits. -/
theorem height_le_number (b : L1Block) : height b ≤ b.number := by
  simp only [height, L1Block.NumberU64, UInt64.toNat_ofNat']
  exact Nat.mod_le _ _

/-! ## The walk's invariant -/

/-- The state of the `internalLCA` walk: stored blocks `x` and `y` with deepest common
ancestor `a`, the walks `bsx` and `bsy` from each down to it, and both above the genesis
height unless they have met. -/
structure Meeting (db : DB) (x y a : L1Block) (bsx bsy : List L1Block) : Prop where
  storedNew : IsStored (heightLinks db) x
  storedOld : IsStored (heightLinks db) y
  deepest : DeepestCommonAncestor (heightLinks db) x y a
  pathNew : Segment (heightLinks db) x bsx a
  pathOld : Segment (heightLinks db) y bsy a
  aboveGenesis : (0 < height x ∧ 0 < height y) ∨ x = y

/-- The invariant does not depend on which side is which. -/
theorem Meeting.symm {db : DB} {x y a : L1Block} {bsx bsy : List L1Block}
    (h : Meeting db x y a bsx bsy) : Meeting db y x a bsy bsx :=
  ⟨h.storedOld, h.storedNew, h.deepest.symm, h.pathOld, h.pathNew,
    h.aboveGenesis.imp And.symm Eq.symm⟩

/-- A step appends the next block's hash to the path. -/
theorem path_step {db : DB} {x p a : L1Block} {rest : List L1Block} (path : List L1BlockHash)
    (hrest : Segment (heightLinks db) p rest a) :
    path ++ [p.hash] ++ (rest ++ [a]).tail.map L1Block.hash =
      path ++ ((x :: rest) ++ [a]).tail.map L1Block.hash := by
  rw [List.cons_append, List.tail_cons, hrest.append_singleton, List.map_cons, List.tail_cons,
    List.append_assoc, List.singleton_append]

section Walk

variable {db : DB} (hwf : WellFormed (heightLinks db))
include hwf

/-- Once the two sides are one block, that block is the deepest common ancestor and both
walks are empty. -/
theorem Meeting.done {x a : L1Block} {bsx bsy : List L1Block} (h : Meeting db x x a bsx bsy) :
    a = x ∧ bsx = [] ∧ bsy = [] := by
  obtain rfl := h.deepest.eq_of_ancestorOrSelf hwf h.storedNew (.refl x)
  exact ⟨rfl, h.pathNew.eq_nil_of_self hwf h.storedNew,
    h.pathOld.eq_nil_of_self hwf h.storedNew⟩

/-- A side strictly higher than the other is above the deepest common ancestor. -/
theorem Meeting.ne_of_lt {x y a : L1Block} {bsx bsy : List L1Block}
    (h : Meeting db x y a bsx bsy) (hlt : height y < height x) : x ≠ a := by
  rintro rfl
  have := h.deepest.1.2.number_le hwf h.storedOld
  exact absurd this (by simpa [heightLinks] using hlt)

/-- Level but apart, both sides are above the deepest common ancestor. -/
theorem Meeting.ne_of_level {x y a : L1Block} {bsx bsy : List L1Block}
    (h : Meeting db x y a bsx bsy) (hlevel : height x = height y) (hne : x ≠ y) : x ≠ a := by
  rintro rfl
  exact hne (AncestorOrSelf.eq_of_number hwf h.storedOld h.deepest.1.2 (.refl y) hlevel)

/-- The parent of a stored block is one height lower. -/
theorem height_parent {x p : L1Block} (hx : IsStored (heightLinks db) x)
    (hp : FetchBlock db x.parentHash = .ok p) : height p + 1 = height x :=
  hwf hx.choose_spec hp

/-- **The new side steps down.** -/
theorem Meeting.stepNew {x y a p : L1Block} {rest bsy : List L1Block}
    (h : Meeting db x y a (x :: rest) bsy) (hlt : height y < height x) (hne : x ≠ y)
    (hp : FetchBlock db x.parentHash = .ok p) (hrest : Segment (heightLinks db) p rest a) :
    Meeting db p y a rest bsy where
  storedNew := ⟨_, hp⟩
  storedOld := h.storedOld
  deepest := h.deepest.of_parent (h.ne_of_lt hwf hlt) hp
  pathNew := hrest
  pathOld := h.pathOld
  aboveGenesis := by
    have hheight := height_parent hwf h.storedNew hp
    rcases h.aboveGenesis with ⟨-, hy⟩ | rfl
    · exact .inl ⟨by omega, hy⟩
    · exact absurd rfl hne

/-- **The old side steps down.** -/
theorem Meeting.stepOld {x y a q : L1Block} {bsx rest : List L1Block}
    (h : Meeting db x y a bsx (y :: rest)) (hlt : height x < height y) (hne : x ≠ y)
    (hq : FetchBlock db y.parentHash = .ok q) (hrest : Segment (heightLinks db) q rest a) :
    Meeting db x q a bsx rest where
  storedNew := h.storedNew
  storedOld := ⟨_, hq⟩
  deepest := (h.deepest.symm.of_parent (h.symm.ne_of_lt hwf hlt) hq).symm
  pathNew := h.pathNew
  pathOld := hrest
  aboveGenesis := by
    have hheight := height_parent hwf h.storedOld hq
    rcases h.aboveGenesis with ⟨hx, -⟩ | rfl
    · exact .inl ⟨hx, by omega⟩
    · exact absurd rfl hne

/-- **Both sides step down**, level and apart. If that takes them to the genesis height,
they meet there. -/
theorem Meeting.stepBoth {x y a p q : L1Block} {restx resty : List L1Block}
    (h : Meeting db x y a (x :: restx) (y :: resty)) (hlevel : height x = height y)
    (hne : x ≠ y) (hp : FetchBlock db x.parentHash = .ok p)
    (hq : FetchBlock db y.parentHash = .ok q) (hrestx : Segment (heightLinks db) p restx a)
    (hresty : Segment (heightLinks db) q resty a) :
    Meeting db p q a restx resty := by
  have hxa := h.ne_of_level hwf hlevel hne
  have hya := h.symm.ne_of_level hwf hlevel.symm (Ne.symm hne)
  have hdeep : DeepestCommonAncestor (heightLinks db) p q a :=
    ((h.deepest.of_parent hxa hp).symm.of_parent hya hq).symm
  have hpx := height_parent hwf h.storedNew hp
  have hqy := height_parent hwf h.storedOld hq
  refine ⟨⟨_, hp⟩, ⟨_, hq⟩, hdeep, hrestx, hresty, ?_⟩
  by_cases hpos : 0 < height p
  · exact .inl ⟨hpos, by omega⟩
  · -- at height `0` the common ancestor is each side's only ancestor-or-self
    right
    have hap : a = p := AncestorOrSelf.eq_of_number hwf ⟨_, hp⟩ hdeep.1.1 (.refl p)
      (by have := hdeep.1.1.number_le hwf ⟨_, hp⟩; simp only [heightLinks] at this ⊢; omega)
    have haq : a = q := AncestorOrSelf.eq_of_number hwf ⟨_, hq⟩ hdeep.1.2 (.refl q)
      (by have := hdeep.1.2.number_le hwf ⟨_, hq⟩; simp only [heightLinks] at this ⊢; omega)
    rw [← hap, ← haq]

/-- **The walk meets at the deepest common ancestor.** From a `Meeting` state, with fuel for
every step of both walks and the final comparison, `internalLCA` returns the deepest common
ancestor and appends to each path the hashes of the blocks its side steps to. -/
theorem internalLCA_eq :
    ∀ (fuel : Nat) {x y a : L1Block} {bsx bsy : List L1Block} (cp ncp : List L1BlockHash),
      Meeting db x y a bsx bsy → bsx.length + bsy.length < fuel →
        internalLCA db fuel x y cp ncp =
          .ok (a, cp ++ (bsx ++ [a]).tail.map L1Block.hash,
            ncp ++ (bsy ++ [a]).tail.map L1Block.hash)
  | 0, _, _, _, _, _, _, _, _, hfuel => absurd hfuel (Nat.not_lt_zero _)
  | fuel + 1, x, y, a, bsx, bsy, cp, ncp, h, hfuel => by
    rw [internalLCA]
    by_cases hg : x.NumberU64 = UInt64.ofNat L1GenesisHeight ∨
        y.NumberU64 = UInt64.ofNat L1GenesisHeight
    · -- at the genesis height the two have met
      rw [if_pos hg]
      have hxy : x = y := by
        rcases h.aboveGenesis with ⟨hx, hy⟩ | hxy
        · rw [NumberU64_eq_genesis_iff, NumberU64_eq_genesis_iff] at hg
          omega
        · exact hxy
      subst hxy
      obtain ⟨rfl, rfl, rfl⟩ := h.done hwf
      simp
    rw [if_neg hg]
    by_cases hh : x.hash = y.hash
    · rw [if_pos hh]
      obtain rfl := eq_of_hash_eq h.storedNew h.storedOld hh
      obtain ⟨rfl, rfl, rfl⟩ := h.done hwf
      simp
    rw [if_neg hh]
    have hne : x ≠ y := fun hxy => hh (congrArg L1Block.hash hxy)
    by_cases hlt : y.NumberU64 < x.NumberU64
    · -- the new side is higher
      rw [if_pos hlt]
      rw [NumberU64_lt_iff] at hlt
      obtain ⟨p, rest, rfl, hp, hrest⟩ := h.pathNew.cons_of_ne (h.ne_of_lt hwf hlt)
      change FetchBlock db x.parentHash = .ok p at hp
      rw [hp]
      simp only
      rw [internalLCA_eq fuel (cp ++ [p.hash]) ncp (h.stepNew hwf hlt hne hp hrest)
        (by simp only [List.length_cons] at hfuel; omega), path_step cp hrest]
    rw [if_neg hlt]
    by_cases hgt : x.NumberU64 < y.NumberU64
    · -- the old side is higher
      rw [if_pos hgt]
      rw [NumberU64_lt_iff] at hgt
      obtain ⟨q, rest, rfl, hq, hrest⟩ := h.pathOld.cons_of_ne (h.symm.ne_of_lt hwf hgt)
      change FetchBlock db y.parentHash = .ok q at hq
      rw [hq]
      simp only
      rw [internalLCA_eq fuel cp (ncp ++ [q.hash]) (h.stepOld hwf hgt hne hq hrest)
        (by simp only [List.length_cons] at hfuel; omega), path_step ncp hrest]
    rw [if_neg hgt]
    -- level and apart: both sides step
    rw [NumberU64_lt_iff] at hlt hgt
    have hlevel : height x = height y := by omega
    obtain ⟨p, restx, rfl, hp, hrestx⟩ := h.pathNew.cons_of_ne (h.ne_of_level hwf hlevel hne)
    obtain ⟨q, resty, rfl, hq, hresty⟩ :=
      h.pathOld.cons_of_ne (h.symm.ne_of_level hwf hlevel.symm (Ne.symm hne))
    change FetchBlock db x.parentHash = .ok p at hp
    change FetchBlock db y.parentHash = .ok q at hq
    rw [hp]
    simp only
    rw [hq]
    simp only
    rw [internalLCA_eq fuel (cp ++ [p.hash]) (ncp ++ [q.hash])
      (h.stepBoth hwf hlevel hne hp hq hrestx hresty)
      (by simp only [List.length_cons] at hfuel; omega), path_step cp hrestx,
      path_step ncp hresty]

end Walk

/-! ## `LCA` -/

/-- Dropping the last hash of a path that ends at the common ancestor leaves the blocks
strictly above it. -/
theorem dropLast_tail_map {a : L1Block} (bs : List L1Block) :
    ((bs ++ [a]).tail.map L1Block.hash).dropLast = bs.tail.map L1Block.hash := by
  cases bs with
  | nil => rfl
  | cons b bs =>
    rw [List.cons_append, List.tail_cons, List.map_append, List.map_singleton,
      List.dropLast_concat, List.tail_cons]

/-- **`LCA` finds the fork.** In a store where every stored parent is one height below its
child, for two stored blocks above the genesis height that share an ancestor, `LCA` succeeds.
Its common ancestor is their deepest common ancestor `a`; its canonical path is the hashes of
the new head's ancestors strictly above `a`, nearest first; its non-canonical path is the
hashes of the old head and its ancestors strictly above `a`. It reports a fork exactly when
the old head is not an ancestor-or-self of the new one. -/
theorem LCA_chainFork (db : DB) (hwf : WellFormed (heightLinks db))
    (newCanonical oldCanonical : L1Block) (hnew : IsStored (heightLinks db) newCanonical)
    (hold : IsStored (heightLinks db) oldCanonical)
    (hnewpos : L1GenesisHeight < height newCanonical)
    (holdpos : L1GenesisHeight < height oldCanonical)
    (hshare : ∃ a, CommonAncestor (heightLinks db) newCanonical oldCanonical a) :
    ∃ cf, LCA db newCanonical oldCanonical = .ok cf ∧
      cf.NewCanonical = newCanonical ∧ cf.OldCanonical = oldCanonical ∧
      DeepestCommonAncestor (heightLinks db) newCanonical oldCanonical cf.CommonAncestor ∧
      (∃ canonical, Segment (heightLinks db) newCanonical canonical cf.CommonAncestor ∧
        cf.CanonicalPath = canonical.tail.map L1Block.hash) ∧
      (∃ nonCanonical, Segment (heightLinks db) oldCanonical nonCanonical cf.CommonAncestor ∧
        cf.NonCanonicalPath = nonCanonical.map L1Block.hash) ∧
      (cf.IsFork = true ↔ ¬ AncestorOrSelf (heightLinks db) newCanonical oldCanonical) := by
  obtain ⟨a, hdeep⟩ := DeepestCommonAncestor.exists hwf hnew hshare
  obtain ⟨canonical, hcanonical⟩ := hdeep.1.1.segment
  obtain ⟨nonCanonical, hnonCanonical⟩ := hdeep.1.2.segment
  have hmeet : Meeting db newCanonical oldCanonical a canonical nonCanonical :=
    ⟨hnew, hold, hdeep, hcanonical, hnonCanonical, .inl
      ⟨by simpa [L1GenesisHeight] using hnewpos, by simpa [L1GenesisHeight] using holdpos⟩⟩
  -- each walk is as long as the height it descends, and a height is at most the number
  have hfuel : canonical.length + nonCanonical.length <
      newCanonical.number + oldCanonical.number + 1 := by
    have e1 := hcanonical.ancestorAt.number_add hwf hnew
    have e2 := hnonCanonical.ancestorAt.number_add hwf hold
    have := height_le_number newCanonical
    have := height_le_number oldCanonical
    simp only [heightLinks] at e1 e2
    omega
  have hwalk := internalLCA_eq hwf _ [] [oldCanonical.hash] hmeet hfuel
  have hncp : ([oldCanonical.hash] ++ (nonCanonical ++ [a]).tail.map L1Block.hash).dropLast =
      nonCanonical.map L1Block.hash := by
    have hpath : [oldCanonical.hash] ++ (nonCanonical ++ [a]).tail.map L1Block.hash =
        (nonCanonical ++ [a]).map L1Block.hash := by
      rw [hnonCanonical.append_singleton]
      rfl
    rw [hpath, List.map_append, List.map_singleton, List.dropLast_concat]
  refine ⟨_, by rw [LCA, hwalk], rfl, rfl, hdeep, ⟨canonical, hcanonical, ?_⟩,
    ⟨nonCanonical, hnonCanonical, hncp⟩, ?_⟩
  · exact (congrArg List.dropLast (List.nil_append _)).trans (dropLast_tail_map canonical)
  · -- a fork is a non-empty old walk, that is an old head above the common ancestor
    simp only [ChainFork.IsFork, hncp, ne_eq, decide_eq_true_eq, List.map_eq_nil_iff]
    constructor
    · intro hne hold'
      have hao := hdeep.symm.eq_of_ancestorOrSelf hwf hold hold'
      subst hao
      exact hne (hnonCanonical.eq_nil_of_self hwf hold)
    · intro hnot hnil
      subst hnil
      cases hnonCanonical
      exact hnot hdeep.1.1

/-- A store with a fork one block deep: the genesis block `G`, its child `A`, and two
children of `A`, `B` on the canonical chain and `C` off it. -/
def forkG : L1Block := ⟨1, 0, 0⟩
def forkA : L1Block := ⟨2, 1, 1⟩
def forkB : L1Block := ⟨3, 2, 2⟩
def forkC : L1Block := ⟨4, 2, 2⟩
def forkDB : DB := ⟨[⟨forkG, true⟩, ⟨forkA, true⟩, ⟨forkB, true⟩, ⟨forkC, false⟩], []⟩

theorem LCA_chainFork_sibling :
    ∃ cf, LCA forkDB forkB forkC = .ok cf ∧
      cf.NewCanonical = forkB ∧ cf.OldCanonical = forkC ∧
      DeepestCommonAncestor (heightLinks forkDB) forkB forkC cf.CommonAncestor ∧
      (∃ canonical, Segment (heightLinks forkDB) forkB canonical cf.CommonAncestor ∧
        cf.CanonicalPath = canonical.tail.map L1Block.hash) ∧
      (∃ nonCanonical, Segment (heightLinks forkDB) forkC nonCanonical cf.CommonAncestor ∧
        cf.NonCanonicalPath = nonCanonical.map L1Block.hash) ∧
      (cf.IsFork = true ↔ ¬ AncestorOrSelf (heightLinks forkDB) forkB forkC) := by
  have hBA : FetchBlock forkDB forkB.parentHash = .ok forkA := by decide
  have hCA : FetchBlock forkDB forkC.parentHash = .ok forkA := by decide
  exact LCA_chainFork forkDB (wellFormed_of_parentsOneLower (by decide)) forkB forkC
    ⟨forkB.hash, by decide⟩ ⟨forkC.hash, by decide⟩ (by decide) (by decide)
    ⟨forkA, ⟨1, .step hBA (.refl _)⟩, ⟨1, .step hCA (.refl _)⟩⟩

end Obscuro.BlockProcessor
