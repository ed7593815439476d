import Mathlib

/-!
# Walks over a store of parent-linked blocks

A block store maps hashes to blocks; each block names its parent's hash and carries a
height. Code that looks for an ancestor fetches parents one at a time until a test holds or
a fetch fails. This module gives such stores a vocabulary independent of any one chain:

* `AncestorAt L b n a` — `a` is reached from `b` by `n` successful parent fetches;
* `WellFormed L` — a stored block's stored parent is exactly one lower (an L1 consensus
  rule), so heights count the steps of a walk (`AncestorAt.number_add`);
* `Segment L b bs a` — the blocks `bs` a walk from `b` visits before it reaches `a`, so
  that code collecting something along a walk can be specified block by block; segments
  compose (`Segment.append`) and, in a well-formed store, are unique (`Segment.unique`);
* `walkTo` — the first block on the parent path that passes a test. The walk is bounded by
  `fuel`, which counts fetches; once it covers the path, the result is the target
  (`walkTo_of_ancestorAt`), or, when no block on the path passes, the error of the fetch
  that leaves the store (`walkTo_of_forall_stop_false`). In a well-formed store no walk
  goes on forever (`parent_wellFounded`, `walkStep_wellFounded`).

The store answers with `Except ε`, so a failed fetch carries the store's own error.
-/

namespace ParentWalk

/-- The three things a walk reads: the store, a block's parent hash and its height. -/
structure Links (ε H B : Type) where
  fetch : H → Except ε B
  parent : B → H
  number : B → Nat

variable {ε H B : Type} (L : Links ε H B)

/-- `a` is reached from `b` by `n` successful parent fetches. -/
inductive AncestorAt : B → Nat → B → Prop
  | refl (b : B) : AncestorAt b 0 b
  | step {b p a : B} {n : Nat} :
      L.fetch (L.parent b) = .ok p → AncestorAt p n a → AncestorAt b (n + 1) a

/-- `a` is `b` or one of its ancestors through stored blocks. -/
def AncestorOrSelf (b a : B) : Prop := ∃ n, AncestorAt L b n a

/-- Walking parents from `b` visits the blocks `bs`, `b` first, and then reaches `a`; the
segment is empty when `b` is `a`. -/
inductive Segment : B → List B → B → Prop
  | refl (a : B) : Segment a [] a
  | step {b p a : B} {bs : List B} :
      L.fetch (L.parent b) = .ok p → Segment p bs a → Segment b (b :: bs) a

/-- A block the store returns for some hash. -/
def IsStored (b : B) : Prop := ∃ h, L.fetch h = .ok b

/-- Every stored block whose parent is stored sits one height above it. -/
def WellFormed : Prop :=
  ∀ {h : H} {b p : B}, L.fetch h = .ok b → L.fetch (L.parent b) = .ok p →
    L.number p + 1 = L.number b

/-- The first block on the parent path of `b`, `b` included, that passes `stop`. Each step
fetches one parent; a failed fetch ends the walk with its error, and so does running out of
`fuel` (with `exhausted`). -/
def walkTo (stop : B → Bool) (exhausted : ε) : Nat → B → Except ε B
  | 0, b => if stop b then .ok b else .error exhausted
  | n + 1, b =>
    if stop b then .ok b
    else
      match L.fetch (L.parent b) with
      | .error e => .error e
      | .ok p => walkTo stop exhausted n p

variable {L}

theorem AncestorAt.zero_iff {b a : B} : AncestorAt L b 0 a ↔ a = b := by
  constructor
  · rintro ⟨⟩
    rfl
  · rintro rfl
    exact .refl a

/-- Walks are deterministic: a store answers one block per hash. -/
theorem AncestorAt.unique {b a a' : B} {n : Nat} (h : AncestorAt L b n a)
    (h' : AncestorAt L b n a') : a = a' := by
  induction h generalizing a' with
  | refl => exact (AncestorAt.zero_iff.mp h').symm
  | step hp _ ih =>
    cases h' with
    | step hp' hrest =>
      rw [hp] at hp'
      cases hp'
      exact ih hrest

theorem AncestorAt.isStored_of_pos {b a : B} {n : Nat} (h : AncestorAt L b n a) (hn : 0 < n) :
    IsStored L a := by
  induction h with
  | refl => omega
  | step hp hrest ih =>
    rename_i p _ m
    rcases Nat.eq_zero_or_pos m with rfl | hm
    · rw [AncestorAt.zero_iff.mp hrest]
      exact ⟨_, hp⟩
    · exact ih hm

/-- In a well-formed store, heights count the steps down from a stored block. -/
theorem AncestorAt.number_add (hwf : WellFormed L) {b a : B} {n : Nat}
    (h : AncestorAt L b n a) (hb : IsStored L b) : L.number a + n = L.number b := by
  induction h with
  | refl => simp
  | step hp _ ih =>
    obtain ⟨hh, hbh⟩ := hb
    have hstep := hwf hbh hp
    have := ih ⟨_, hp⟩
    omega

/-- The path from `b` to `a` splits at every intermediate length. -/
theorem AncestorAt.split {b a : B} {n m : Nat} (h : AncestorAt L b n a) (hm : m ≤ n) :
    ∃ c, AncestorAt L b m c ∧ AncestorAt L c (n - m) a := by
  induction h generalizing m with
  | refl b =>
    have : m = 0 := by omega
    subst this
    exact ⟨b, .refl b, .refl b⟩
  | step hp hrest ih =>
    rename_i b' p _ k
    rcases m with _ | m
    · exact ⟨b', .refl b', by simpa using AncestorAt.step hp hrest⟩
    · obtain ⟨c, hc, hca⟩ := @ih m (by omega)
      exact ⟨c, .step hp hc, by simpa using hca⟩

/-- In a well-formed store, a stored block has one ancestor-or-self per height. -/
theorem AncestorOrSelf.eq_of_number (hwf : WellFormed L) {b a a' : B} (hb : IsStored L b)
    (ha : AncestorOrSelf L b a) (ha' : AncestorOrSelf L b a') (h : L.number a = L.number a') :
    a = a' := by
  obtain ⟨n, hn⟩ := ha
  obtain ⟨n', hn'⟩ := ha'
  have e1 := hn.number_add hwf hb
  have e2 := hn'.number_add hwf hb
  have : n = n' := by omega
  subst this
  exact hn.unique hn'

/-! ## Segments -/

theorem Segment.ancestorAt {b a : B} {bs : List B} (h : Segment L b bs a) :
    AncestorAt L b bs.length a := by
  induction h with
  | refl a => exact .refl a
  | step hp _ ih => exact .step hp ih

theorem AncestorAt.segment {b a : B} {n : Nat} (h : AncestorAt L b n a) :
    ∃ bs, Segment L b bs a ∧ bs.length = n := by
  induction h with
  | refl b => exact ⟨[], .refl b, rfl⟩
  | step hp _ ih =>
    obtain ⟨bs, hbs, hlen⟩ := ih
    exact ⟨_, .step hp hbs, by simp [hlen]⟩

theorem AncestorOrSelf.segment {b a : B} (h : AncestorOrSelf L b a) : ∃ bs, Segment L b bs a :=
  let ⟨_, hn⟩ := h
  let ⟨bs, hbs, _⟩ := hn.segment
  ⟨bs, hbs⟩

theorem Segment.ancestorOrSelf {b a : B} {bs : List B} (h : Segment L b bs a) :
    AncestorOrSelf L b a :=
  ⟨_, h.ancestorAt⟩

/-- Walking from `b` to `c` and on from `c` to `a` is one walk from `b` to `a`. -/
theorem Segment.append {b c a : B} {bs cs : List B} (h₁ : Segment L b bs c)
    (h₂ : Segment L c cs a) : Segment L b (bs ++ cs) a := by
  induction h₁ with
  | refl => exact h₂
  | step hp _ ih => exact .step hp (ih h₂)

/-- In a well-formed store, every block a walk from a stored block visits before reaching
`a` is higher than `a`. -/
theorem Segment.number_lt (hwf : WellFormed L) {b a : B} {bs : List B} (h : Segment L b bs a)
    (hb : IsStored L b) : ∀ c ∈ bs, L.number a < L.number c := by
  induction h with
  | refl => simp
  | step hp hrest ih =>
    intro c hc
    rcases List.mem_cons.mp hc with rfl | hc
    · have := (Segment.step hp hrest).ancestorAt.number_add hwf hb
      simp only [List.length_cons] at this
      omega
    · exact ih ⟨_, hp⟩ c hc

/-- In a well-formed store, the walk from a stored block to a given ancestor is unique. -/
theorem Segment.unique (hwf : WellFormed L) {b a : B} {bs bs' : List B} (h : Segment L b bs a)
    (h' : Segment L b bs' a) (hb : IsStored L b) : bs = bs' := by
  have hlen : bs.length = bs'.length := by
    have e1 := h.ancestorAt.number_add hwf hb
    have e2 := h'.ancestorAt.number_add hwf hb
    omega
  induction h generalizing bs' with
  | refl a =>
    cases bs' with
    | nil => rfl
    | cons => simp at hlen
  | step hp hrest ih =>
    cases h' with
    | refl => simp at hlen
    | step hp' hrest' =>
      rw [hp] at hp'
      cases hp'
      rw [ih hrest' ⟨_, hp⟩ (by simpa using hlen)]

/-- **Walk spec.** If `a` lies `n` fetches below `b`, passes `stop`, and nothing strictly
before it on the path does, a walk with at least `n` fuel returns `a`. -/
theorem walkTo_of_ancestorAt {stop : B → Bool} {exhausted : ε} {b a : B} {n : Nat}
    (h : AncestorAt L b n a) (ha : stop a = true)
    (hbefore : ∀ m c, m < n → AncestorAt L b m c → stop c = false) :
    ∀ {fuel : Nat}, n ≤ fuel → walkTo L stop exhausted fuel b = .ok a := by
  induction h with
  | refl b =>
    intro fuel _
    cases fuel <;> simp [walkTo, ha]
  | step hp hrest ih =>
    rename_i b' p _ k
    intro fuel hfuel
    obtain ⟨fuel, rfl⟩ : ∃ f, fuel = f + 1 := ⟨fuel - 1, by omega⟩
    have hb' : stop b' = false := hbefore 0 b' (by omega) (.refl b')
    have hrest' : ∀ m c, m < k → AncestorAt L p m c → stop c = false :=
      fun m c hm hc => hbefore (m + 1) c (by omega) (.step hp hc)
    simp only [walkTo, hb', Bool.false_eq_true, if_false, hp]
    exact ih ha hrest' (by omega)

/-! ## Common ancestors -/

section Common

variable (L)

/-- `a` is an ancestor-or-self of both `x` and `y`. -/
def CommonAncestor (x y a : B) : Prop := AncestorOrSelf L x a ∧ AncestorOrSelf L y a

/-- `a` is a common ancestor of `x` and `y`, and no common ancestor is higher. -/
def DeepestCommonAncestor (x y a : B) : Prop :=
  CommonAncestor L x y a ∧ ∀ c, CommonAncestor L x y c → L.number c ≤ L.number a

variable {L}

theorem AncestorOrSelf.refl (b : B) : AncestorOrSelf L b b := ⟨0, .refl b⟩

/-- An ancestor-or-self of a stored block is stored. -/
theorem AncestorOrSelf.isStored {b a : B} (h : AncestorOrSelf L b a) (hb : IsStored L b) :
    IsStored L a := by
  obtain ⟨n, hn⟩ := h
  rcases Nat.eq_zero_or_pos n with rfl | hpos
  · rw [AncestorAt.zero_iff.mp hn]
    exact hb
  · exact hn.isStored_of_pos hpos

/-- Every block a walk from a stored block visits is stored. -/
theorem Segment.isStored_of_mem {b a : B} {bs : List B} (h : Segment L b bs a)
    (hb : IsStored L b) : ∀ c ∈ bs, IsStored L c := by
  induction h with
  | refl => simp
  | step hp _ ih =>
    intro c hc
    rcases List.mem_cons.mp hc with rfl | hc
    · exact hb
    · exact ih ⟨_, hp⟩ c hc

/-- A walk from a block's parent is a walk from the block. -/
theorem AncestorOrSelf.of_parent {b p a : B} (hp : L.fetch (L.parent b) = .ok p)
    (h : AncestorOrSelf L p a) : AncestorOrSelf L b a :=
  let ⟨n, hn⟩ := h
  ⟨n + 1, .step hp hn⟩

/-- In a well-formed store, an ancestor is no higher than a stored block. -/
theorem AncestorOrSelf.number_le (hwf : WellFormed L) {b a : B} (hb : IsStored L b)
    (h : AncestorOrSelf L b a) : L.number a ≤ L.number b := by
  obtain ⟨n, hn⟩ := h
  have := hn.number_add hwf hb
  omega

/-- An ancestor-or-self of a block is the block itself or an ancestor-or-self of its
parent. -/
theorem AncestorOrSelf.eq_or_of_parent {b p a : B} (hp : L.fetch (L.parent b) = .ok p)
    (h : AncestorOrSelf L b a) : a = b ∨ AncestorOrSelf L p a := by
  obtain ⟨n, hn⟩ := h
  cases hn with
  | refl => exact .inl rfl
  | step hp' hrest =>
    rw [hp] at hp'
    cases hp'
    exact .inr ⟨_, hrest⟩

theorem DeepestCommonAncestor.symm {x y a : B} (h : DeepestCommonAncestor L x y a) :
    DeepestCommonAncestor L y x a :=
  ⟨h.1.symm, fun c hc => h.2 c hc.symm⟩

/-- Two blocks with a common ancestor have a deepest one: among the common ancestors, the
one fewest steps below `x`. -/
theorem DeepestCommonAncestor.exists (hwf : WellFormed L) {x y : B} (hx : IsStored L x)
    (h : ∃ a, CommonAncestor L x y a) : ∃ a, DeepestCommonAncestor L x y a := by
  classical
  have hP : ∃ k, ∃ a, CommonAncestor L x y a ∧ L.number a + k = L.number x := by
    obtain ⟨a, ha⟩ := h
    have := ha.1.number_le hwf hx
    exact ⟨L.number x - L.number a, a, ha, by omega⟩
  obtain ⟨a, ha, hk⟩ := Nat.find_spec hP
  refine ⟨a, ha, fun c hc => ?_⟩
  have hc' := hc.1.number_le hwf hx
  have hmin := Nat.find_min' hP ⟨c, hc, (by omega : L.number c + (L.number x - L.number c) =
    L.number x)⟩
  omega

/-- Above the deepest common ancestor, a block's parent keeps it as the deepest common
ancestor with the other block. -/
theorem DeepestCommonAncestor.of_parent {x y a p : B} (hd : DeepestCommonAncestor L x y a)
    (hne : x ≠ a) (hp : L.fetch (L.parent x) = .ok p) : DeepestCommonAncestor L p y a := by
  obtain ⟨⟨⟨n, hxa⟩, hya⟩, hdeep⟩ := hd
  cases hxa with
  | refl => exact absurd rfl hne
  | step hp' hrest =>
    rw [hp] at hp'
    cases hp'
    exact ⟨⟨⟨_, hrest⟩, hya⟩, fun c hc => hdeep c ⟨hc.1.of_parent hp, hc.2⟩⟩

/-- Below a block the other does not descend from, the deepest common ancestor of its parent
and the other is its own. -/
theorem DeepestCommonAncestor.of_child {x y a p : B} (hp : L.fetch (L.parent x) = .ok p)
    (hd : DeepestCommonAncestor L p y a) (hyx : ¬ AncestorOrSelf L y x) :
    DeepestCommonAncestor L x y a := by
  refine ⟨⟨hd.1.1.of_parent hp, hd.1.2⟩, fun c hc => ?_⟩
  rcases hc.1.eq_or_of_parent hp with rfl | hpc
  · exact absurd hc.2 hyx
  · exact hd.2 c ⟨hpc, hc.2⟩

/-- A stored block that is an ancestor-or-self of the other is the deepest common
ancestor. -/
theorem DeepestCommonAncestor.eq_of_ancestorOrSelf (hwf : WellFormed L) {x y a : B}
    (hd : DeepestCommonAncestor L x y a) (hx : IsStored L x) (hyx : AncestorOrSelf L y x) :
    a = x := by
  have hle := hd.2 x ⟨.refl x, hyx⟩
  have hge := hd.1.1.number_le hwf hx
  exact AncestorOrSelf.eq_of_number hwf hx hd.1.1 (.refl x) (by omega)

/-- A walk from a block to itself in a well-formed store is empty. -/
theorem Segment.eq_nil_of_self (hwf : WellFormed L) {a : B} {bs : List B}
    (h : Segment L a bs a) (ha : IsStored L a) : bs = [] :=
  h.unique hwf (.refl a) ha

/-- A walk from `x` to another block starts with the step to `x`'s parent. -/
theorem Segment.cons_of_ne {x a : B} {bs : List B} (h : Segment L x bs a) (hne : x ≠ a) :
    ∃ p rest, bs = x :: rest ∧ L.fetch (L.parent x) = .ok p ∧ Segment L p rest a := by
  cases h with
  | refl => exact absurd rfl hne
  | step hp hrest => exact ⟨_, _, rfl, hp, hrest⟩

/-- The blocks a walk visits, with its end, start with its start. -/
theorem Segment.append_singleton {b a : B} {bs : List B} (h : Segment L b bs a) :
    bs ++ [a] = b :: (bs ++ [a]).tail := by
  cases h <;> rfl

/-- The ancestors-or-self of `b` are the blocks its walk to `a` visits before `a`, and the
ancestors-or-self of `a`. -/
theorem Segment.ancestorOrSelf_iff {b a c : B} {bs : List B} (h : Segment L b bs a) :
    AncestorOrSelf L b c ↔ c ∈ bs ∨ AncestorOrSelf L a c := by
  induction h with
  | refl a => simp
  | step hp _ ih =>
    rename_i b' p _ _
    constructor
    · intro hc
      rcases hc.eq_or_of_parent hp with rfl | hc
      · exact .inl List.mem_cons_self
      · rcases ih.mp hc with hc | hc
        · exact .inl (List.mem_cons_of_mem _ hc)
        · exact .inr hc
    · rintro (hc | hc)
      · rcases List.mem_cons.mp hc with rfl | hc
        · exact .refl c
        · exact AncestorOrSelf.of_parent hp (ih.mpr (.inl hc))
      · exact AncestorOrSelf.of_parent hp (ih.mpr (.inr hc))

end Common

/-! ## Stores that agree on the walks -/

section Congr

variable {L' : Links ε H B}

/-- A walk of `n + 1` fetches goes through the block's parent. -/
theorem AncestorAt.succ_iff {b a : B} {n : Nat} :
    AncestorAt L b (n + 1) a ↔ ∃ p, L.fetch (L.parent b) = .ok p ∧ AncestorAt L p n a := by
  constructor
  · intro h
    cases h with
    | step hp hrest => exact ⟨_, hp, hrest⟩
  · rintro ⟨p, hp, hrest⟩
    exact .step hp hrest

theorem Segment.nil_iff {b a : B} : Segment L b [] a ↔ a = b := by
  constructor
  · intro h
    cases h
    rfl
  · rintro rfl
    exact .refl a

theorem Segment.cons_iff {b c a : B} {bs : List B} :
    Segment L b (c :: bs) a ↔ c = b ∧ ∃ p, L.fetch (L.parent b) = .ok p ∧ Segment L p bs a := by
  constructor
  · intro h
    cases h with
    | step hp hrest => exact ⟨rfl, _, hp, hrest⟩
  · rintro ⟨rfl, p, hp, hrest⟩
    exact .step hp hrest

section
variable (hparent : L'.parent = L.parent)
  (hfetch : ∀ b, IsStored L b → L'.fetch (L.parent b) = L.fetch (L.parent b))
include hparent hfetch

/-- **Walks depend on the parents of stored blocks only.** A store `L'` that answers the parent
of every block `L` stores as `L` does walks as `L` does from `L`'s stored blocks. -/
theorem AncestorAt.congr : ∀ {n : Nat} {b a : B}, IsStored L b →
    (AncestorAt L' b n a ↔ AncestorAt L b n a)
  | 0, _, _, _ => by rw [AncestorAt.zero_iff, AncestorAt.zero_iff]
  | n + 1, b, a, hb => by
    rw [AncestorAt.succ_iff, AncestorAt.succ_iff, hparent, hfetch b hb]
    -- the parent is stored in `L`, so the rest of the walk agrees too
    constructor
    · rintro ⟨p, hp, hrest⟩
      exact ⟨p, hp, (AncestorAt.congr ⟨_, hp⟩).mp hrest⟩
    · rintro ⟨p, hp, hrest⟩
      exact ⟨p, hp, (AncestorAt.congr ⟨_, hp⟩).mpr hrest⟩

theorem AncestorOrSelf.congr {b a : B} (hb : IsStored L b) :
    AncestorOrSelf L' b a ↔ AncestorOrSelf L b a :=
  exists_congr fun _ => AncestorAt.congr hparent hfetch hb

theorem Segment.congr : ∀ {bs : List B} {b a : B}, IsStored L b →
    (Segment L' b bs a ↔ Segment L b bs a)
  | [], _, _, _ => by rw [Segment.nil_iff, Segment.nil_iff]
  | c :: bs, b, a, hb => by
    rw [Segment.cons_iff, Segment.cons_iff, hparent, hfetch b hb]
    constructor
    · rintro ⟨rfl, p, hp, hrest⟩
      exact ⟨rfl, p, hp, (Segment.congr ⟨_, hp⟩).mp hrest⟩
    · rintro ⟨rfl, p, hp, hrest⟩
      exact ⟨rfl, p, hp, (Segment.congr ⟨_, hp⟩).mpr hrest⟩

/-- With the same heights, two such stores agree on the deepest common ancestor of two of
`L`'s stored blocks. -/
theorem DeepestCommonAncestor.congr (hnumber : L'.number = L.number) {x y a : B}
    (hx : IsStored L x) (hy : IsStored L y) :
    DeepestCommonAncestor L' x y a ↔ DeepestCommonAncestor L x y a := by
  simp only [DeepestCommonAncestor, CommonAncestor, AncestorOrSelf.congr hparent hfetch hx,
    AncestorOrSelf.congr hparent hfetch hy, hnumber]

end

end Congr

/-! ## Termination -/

section Termination

variable (L)

/-- One step of `walkTo stop`: the walk is at `b`, which fails `stop`, and goes on to its
fetched parent `p`. -/
def WalkStep (stop : B → Bool) (p b : B) : Prop := stop b = false ∧ L.fetch (L.parent b) = .ok p

variable {L}

/-- **No infinite descent.** In a well-formed store, fetching parents cannot go on forever:
a fetched block is stored, and a stored block's fetched parent is one lower. -/
theorem parent_wellFounded (hwf : WellFormed L) :
    WellFounded fun p b => L.fetch (L.parent b) = .ok p := by
  -- stored blocks are accessible, by strong induction on their height
  have hstored : ∀ n, ∀ b, IsStored L b → L.number b = n →
      Acc (fun p b => L.fetch (L.parent b) = .ok p) b := by
    intro n
    induction n using Nat.strong_induction_on with
    | _ n ih =>
      intro b hb hn
      refine Acc.intro b fun p hp => ?_
      obtain ⟨h, hh⟩ := hb
      have hnum : L.number p + 1 = L.number b := hwf hh hp
      exact ih (L.number p) (by omega) p ⟨_, hp⟩ rfl
  -- the parent of any block is a fetched, so stored, block
  exact ⟨fun b => Acc.intro b fun p hp => hstored _ p ⟨_, hp⟩ rfl⟩

/-- Every walk stops: its steps are parent fetches. -/
theorem walkStep_wellFounded (hwf : WellFormed L) (stop : B → Bool) :
    WellFounded (WalkStep L stop) :=
  Subrelation.wf (fun h => h.2) (parent_wellFounded hwf)

/-- **Walk off the store.** When no block on the path from a stored `b` passes `stop`, a walk
with fuel past `b`'s height returns the error of a failed parent fetch from a block on the
path: in a well-formed store the path ends before the heights run out. -/
theorem walkTo_of_forall_stop_false (hwf : WellFormed L) {stop : B → Bool} {exhausted : ε} :
    ∀ {fuel : Nat} {b : B}, IsStored L b → (∀ c, AncestorOrSelf L b c → stop c = false) →
      L.number b < fuel →
      ∃ c e, AncestorOrSelf L b c ∧ L.fetch (L.parent c) = .error e ∧
        walkTo L stop exhausted fuel b = .error e
  | 0, _, _, _, hfuel => absurd hfuel (Nat.not_lt_zero _)
  | fuel + 1, b, hb, hnone, hfuel => by
    have hstop : stop b = false := hnone b (AncestorOrSelf.refl b)
    cases hp : L.fetch (L.parent b) with
    | error e =>
      refine ⟨b, e, AncestorOrSelf.refl b, hp, ?_⟩
      simp only [walkTo, hstop, Bool.false_eq_true, if_false, hp]
    | ok p =>
      -- the parent is stored and one lower, and its path is the rest of `b`'s
      obtain ⟨h, hh⟩ := hb
      have hnum : L.number p + 1 = L.number b := hwf hh hp
      have hpfuel : L.number p < fuel := by omega
      obtain ⟨c, e, hc, hce, hwalk⟩ := walkTo_of_forall_stop_false hwf ⟨_, hp⟩
        (fun c hc => hnone c (AncestorOrSelf.of_parent hp hc)) hpfuel
      refine ⟨c, e, AncestorOrSelf.of_parent hp hc, hce, ?_⟩
      simp only [walkTo, hstop, Bool.false_eq_true, if_false, hp]
      exact hwalk

end Termination

end ParentWalk
