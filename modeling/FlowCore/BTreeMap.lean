import Mathlib.Data.String.Basic
import Mathlib.Data.Prod.Lex
import Mathlib.Algebra.Order.Ring.Nat

/-!
# `BTreeMap` as a sorted association list

Every map the modelled code reads or iterates is a Rust `BTreeMap`: the objects of `serde_json`
and of `doc::HeapNode`, `Transaction::stats`, the per-collection stats of the final checkpoint,
a catalog's collections and a collection's projections. Their iteration order is key order, and
two pieces of the code depend on it: `validate_transition`'s `merge_join_by` (specs.rs:212-216)
and the combiner's drain. A map is a list of pairs, and `Sorted` says its keys strictly increase.

Keys are compared with `KeyOrd`, boolean comparisons that agree with the key type's linear order
(Rust's `Ord::cmp`): the maps evaluate with them, since Mathlib's order on `String` does not reduce
in the kernel. `get?` reads the first binding of a key, so the lookup lemmas that do not assume
`Sorted` hold of every list; `remove` needs it, since it drops only the first binding. Two sorted
maps with the same lookups are equal (`Sorted.ext`), so writes to different keys commute
(`Sorted.set_comm`).
-/

namespace FlowCore

/-- Boolean comparisons of a map's keys, agreeing with the key type's order. -/
class KeyOrd (α : Type) [LinearOrder α] where
  eqb : α → α → Bool
  ltb : α → α → Bool
  eqb_iff {a b : α} : eqb a b = true ↔ a = b
  ltb_iff {a b : α} : ltb a b = true ↔ a < b

attribute [simp] KeyOrd.eqb_iff KeyOrd.ltb_iff

instance : KeyOrd Nat where
  eqb a b := decide (a = b)
  ltb a b := decide (a < b)
  eqb_iff := decide_eq_true_iff
  ltb_iff := decide_eq_true_iff

/-- `<` on code-point lists, as `str::cmp` orders strings. -/
def charsLtb : List Char → List Char → Bool
  | [], [] => false
  | [], _ :: _ => true
  | _ :: _, [] => false
  | a :: as, b :: bs => if a.toNat < b.toNat then true else if a = b then charsLtb as bs else false

theorem charsLtb_iff : ∀ {as bs : List Char}, charsLtb as bs = true ↔ List.Lex (· < ·) as bs
  | [], [] => by simp [charsLtb]
  | [], _ :: _ => by simp [charsLtb, List.Lex.nil]
  | _ :: _, [] => by simp [charsLtb]
  | a :: as, b :: bs => by
    have key : List.Lex (· < ·) (a :: as) (b :: bs) ↔ a < b ∨ a = b ∧ List.Lex (· < ·) as bs := by
      constructor
      · intro h
        cases h with
        | cons h => exact .inr ⟨rfl, h⟩
        | rel h => exact .inl h
      · rintro (h | ⟨rfl, h⟩)
        · exact .rel h
        · exact .cons h
    rw [key, ← charsLtb_iff, show a < b ↔ a.toNat < b.toNat from Iff.rfl, charsLtb]
    by_cases h1 : a.toNat < b.toNat
    · simp [h1]
    · by_cases h2 : a = b <;> simp [h1, h2]

instance : KeyOrd String where
  eqb a b := @decide (a = b) (String.decEq a b)
  ltb a b := charsLtb a.toList b.toList
  eqb_iff := decide_eq_true_iff
  ltb_iff := by intro a b; rw [charsLtb_iff]; exact String.lt_iff_toList_lt.symm

instance {α β : Type} [LinearOrder α] [KeyOrd α] [LinearOrder β] [KeyOrd β] : KeyOrd (α ×ₗ β) where
  eqb a b := KeyOrd.eqb (ofLex a).1 (ofLex b).1 && KeyOrd.eqb (ofLex a).2 (ofLex b).2
  ltb a b := KeyOrd.ltb (ofLex a).1 (ofLex b).1 ||
    (KeyOrd.eqb (ofLex a).1 (ofLex b).1 && KeyOrd.ltb (ofLex a).2 (ofLex b).2)
  eqb_iff {a b} := by
    obtain ⟨a1, a2⟩ := a; obtain ⟨b1, b2⟩ := b
    simp only [Bool.and_eq_true, KeyOrd.eqb_iff]
    exact ⟨fun ⟨h1, h2⟩ => by subst h1 h2; rfl, fun h => by cases h; exact ⟨rfl, rfl⟩⟩
  ltb_iff {a b} := by
    obtain ⟨a1, a2⟩ := a; obtain ⟨b1, b2⟩ := b
    simp only [Bool.or_eq_true, Bool.and_eq_true, KeyOrd.eqb_iff, KeyOrd.ltb_iff]
    exact (Prod.Lex.lt_iff (a1, a2) (b1, b2)).symm

namespace BTreeMap

variable {α β γ : Type} [LinearOrder α] [KeyOrd α]

/-- Keys strictly increase: the order a `BTreeMap` iterates in. -/
def Sorted (m : List (α × β)) : Prop := m.Pairwise (fun a b => a.1 < b.1)

/-- `Sorted` decided with the keys' Boolean order, so that it evaluates. -/
instance (m : List (α × β)) : Decidable (Sorted m) :=
  decidable_of_iff (m.Pairwise fun a b => KeyOrd.ltb a.1 b.1 = true) (by simp only [KeyOrd.ltb_iff]; rfl)

/-- `BTreeMap::get`. -/
def get? : List (α × β) → α → Option β
  | [], _ => none
  | (k', v) :: m, k => if KeyOrd.eqb k' k then some v else get? m k

/-- `BTreeMap::insert`: replace the binding of `k`, or add one in key order. -/
def insert (k : α) (v : β) : List (α × β) → List (α × β)
  | [] => [(k, v)]
  | (k', v') :: m =>
    if KeyOrd.eqb k k' then (k, v) :: m
    else if KeyOrd.ltb k k' then (k, v) :: (k', v') :: m
    else (k', v') :: insert k v m

/-- `BTreeMap::remove`. -/
def remove (k : α) : List (α × β) → List (α × β)
  | [] => []
  | (k', v') :: m => if KeyOrd.eqb k' k then m else (k', v') :: remove k m

/-- `let e = map.entry(k).or_insert(d); *e = f(*e)`, which is how the code uses `entry`. -/
def modify (k : α) (d : β) (f : β → β) (m : List (α × β)) : List (α × β) :=
  insert k (f ((get? m k).getD d)) m

/-! ## Lookups -/

@[simp] theorem get?_nil (k : α) : get? ([] : List (α × β)) k = none := rfl

theorem get?_cons (k' k : α) (v : β) (m : List (α × β)) :
    get? ((k', v) :: m) k = if k' = k then some v else get? m k := by
  simp [get?]

@[simp] theorem get?_cons_self (k : α) (v : β) (m : List (α × β)) : get? ((k, v) :: m) k = some v := by
  simp [get?_cons]

theorem get?_cons_of_ne {k' k : α} (v : β) (m : List (α × β)) (h : k' ≠ k) :
    get? ((k', v) :: m) k = get? m k := by
  simp [get?_cons, h]

theorem insert_cons (k k' : α) (v v' : β) (m : List (α × β)) :
    insert k v ((k', v') :: m) =
      if k = k' then (k, v) :: m
      else if k < k' then (k, v) :: (k', v') :: m
      else (k', v') :: insert k v m := by
  simp [insert]

theorem insert_of_forall_lt {k : α} (v : β) :
    ∀ {m : List (α × β)}, (∀ e ∈ m, e.1 < k) → insert k v m = m ++ [(k, v)]
  | [], _ => rfl
  | (k', v') :: m, h => by
    have hk : k' < k := h _ (List.mem_cons_self _ _)
    rw [insert_cons, if_neg (ne_of_gt hk), if_neg (not_lt_of_gt hk),
      insert_of_forall_lt v fun e he => h e (List.mem_cons_of_mem _ he), List.cons_append]

@[simp] theorem get?_insert (k k' : α) (v : β) (m : List (α × β)) :
    get? (insert k v m) k' = if k = k' then some v else get? m k' := by
  induction m with
  | nil => simp [insert, get?_cons]
  | cons p m ih =>
    obtain ⟨k'', v''⟩ := p
    rw [insert_cons]
    by_cases h1 : k = k''
    · subst h1
      simp only [if_true, get?_cons]
      split_ifs <;> rfl
    · by_cases h2 : k < k''
      · simp only [if_neg h1, if_pos h2, get?_cons]
      · simp only [if_neg h1, if_neg h2, get?_cons, ih]
        by_cases h3 : k'' = k' <;> by_cases h4 : k = k' <;> simp_all

@[simp] theorem get?_modify (k k' : α) (d : β) (f : β → β) (m : List (α × β)) :
    get? (modify k d f m) k' = if k = k' then some (f ((get? m k).getD d)) else get? m k' := by
  simp [modify]

theorem mem_of_get?_eq_some {m : List (α × β)} {k : α} {v : β} (h : get? m k = some v) : (k, v) ∈ m := by
  induction m with
  | nil => simp at h
  | cons p m ih =>
    obtain ⟨k', v'⟩ := p
    rw [get?_cons] at h
    split_ifs at h with hk
    · cases h; subst hk; exact List.mem_cons_self _ _
    · exact List.mem_cons_of_mem _ (ih h)

theorem get?_eq_none_of_lt {k : α} {m : List (α × β)} (hm : ∀ p ∈ m, k < p.1) : get? m k = none := by
  induction m with
  | nil => rfl
  | cons p m ih =>
    rw [get?_cons, if_neg (ne_of_gt (hm p (List.mem_cons_self _ _))),
      ih fun q hq => hm q (List.mem_cons_of_mem _ hq)]

/-! ## Sortedness -/

omit [KeyOrd α] in
theorem Sorted.tail {p : α × β} {m : List (α × β)} (h : Sorted (p :: m)) : Sorted m :=
  (List.pairwise_cons.1 h).2

omit [KeyOrd α] in
theorem Sorted.lt_of_mem {p q : α × β} {m : List (α × β)} (h : Sorted (p :: m)) (hq : q ∈ m) :
    p.1 < q.1 :=
  (List.pairwise_cons.1 h).1 q hq

theorem Sorted.get?_head_tail {k : α} {v : β} {m : List (α × β)} (h : Sorted ((k, v) :: m)) :
    get? m k = none :=
  get?_eq_none_of_lt fun _ hq => h.lt_of_mem hq

theorem Sorted.get?_eq_some_iff {m : List (α × β)} (h : Sorted m) {k : α} {v : β} :
    get? m k = some v ↔ (k, v) ∈ m := by
  refine ⟨mem_of_get?_eq_some, fun hm => ?_⟩
  induction m with
  | nil => simp at hm
  | cons p m ih =>
    obtain ⟨k', v'⟩ := p
    rcases List.mem_cons.1 hm with e | hm
    · cases e; simp
    · rw [get?_cons_of_ne _ _ (ne_of_lt (h.lt_of_mem hm))]
      exact ih h.tail hm

theorem mem_insert {k : α} {v : β} {m : List (α × β)} {p : α × β} (h : p ∈ insert k v m) :
    p = (k, v) ∨ p ∈ m := by
  induction m with
  | nil => simpa [insert] using h
  | cons q m ih =>
    obtain ⟨k', v'⟩ := q
    rw [insert_cons] at h
    split_ifs at h <;> simp only [List.mem_cons] at h ⊢ <;> aesop

theorem Sorted.insert {m : List (α × β)} (h : Sorted m) (k : α) (v : β) :
    Sorted (BTreeMap.insert k v m) := by
  induction m with
  | nil => simp [BTreeMap.insert, Sorted]
  | cons q m ih =>
    obtain ⟨k', v'⟩ := q
    have hq : ∀ p ∈ m, k' < p.1 := fun _ hp => h.lt_of_mem hp
    rw [insert_cons]
    split_ifs with h1 h2
    · subst h1; exact List.Pairwise.cons hq h.tail
    · exact List.Pairwise.cons (fun p hp => by
        rcases List.mem_cons.1 hp with rfl | hp
        · exact h2
        · exact h2.trans (hq p hp)) h
    · refine List.Pairwise.cons (fun p hp => ?_) (ih h.tail)
      rcases mem_insert hp with rfl | hp
      · exact lt_of_le_of_ne (not_lt.1 h2) (Ne.symm h1)
      · exact hq p hp

theorem Sorted.modify {m : List (α × β)} (h : Sorted m) (k : α) (d : β) (f : β → β) :
    Sorted (BTreeMap.modify k d f m) :=
  h.insert _ _

/-- A sum over the entries after `insert`: the new value counts, and the one it replaces no
longer does. -/
theorem Sorted.sum_insert {m : List (α × β)} (h : Sorted m) (k : α) (v : β) (g : α → β → Nat) :
    ((BTreeMap.insert k v m).map fun e => g e.1 e.2).sum + (get? m k).elim 0 (g k) =
      (m.map fun e => g e.1 e.2).sum + g k v := by
  induction m with
  | nil => simp [BTreeMap.insert]
  | cons q m ih =>
    obtain ⟨k', v'⟩ := q
    rw [insert_cons]
    split_ifs with h1 h2
    · subst h1
      simp only [List.map_cons, List.sum_cons, get?_cons_self, Option.elim_some]
      omega
    · have hk : get? ((k', v') :: m) k = none :=
        get?_eq_none_of_lt fun p hp => (List.mem_cons.1 hp).elim (· ▸ h2) fun hp => h2.trans (h.lt_of_mem hp)
      simp only [hk, List.map_cons, List.sum_cons, Option.elim_none]
      omega
    · have := ih h.tail
      simp only [get?_cons_of_ne v' m (Ne.symm h1), List.map_cons, List.sum_cons]
      omega

theorem Sorted.exists_mem_iff {m : List (α × β)} (h : Sorted m) (k : α) :
    (∃ v, (k, v) ∈ m) ↔ (get? m k).isSome := by
  simp only [Option.isSome_iff_exists, h.get?_eq_some_iff]

theorem Sorted.eq_append_top {m : List (α × β)} (h : Sorted m) (top : α) (hm : ∀ e ∈ m, e.1 < top ∨ e.1 = top) :
    m = m.filter (fun e => decide (e.1 < top)) ++ ((get? m top).map fun v => (top, v)).toList := by
  induction m with
  | nil => rfl
  | cons e m ih =>
    obtain ⟨k, v⟩ := e
    rcases hm _ (List.mem_cons_self _ _) with hk | rfl
    · rw [List.filter_cons_of_pos (by simpa using hk), get?_cons_of_ne v m (ne_of_lt hk), List.cons_append,
        ← ih h.tail fun e he => hm e (List.mem_cons_of_mem _ he)]
    · have hm' : m = [] := List.eq_nil_iff_forall_not_mem.2 fun e he =>
        (hm e (List.mem_cons_of_mem _ he)).elim (fun h' => lt_asymm h' (h.lt_of_mem he))
          fun h' => ne_of_gt (h.lt_of_mem he) h'
      subst hm'
      simp

theorem remove_sublist (k : α) (m : List (α × β)) : (remove k m).Sublist m := by
  induction m with
  | nil => exact List.Sublist.slnil
  | cons q m ih =>
    simp only [remove]
    split_ifs
    · exact List.sublist_cons_self _ _
    · exact ih.cons₂ _

theorem Sorted.remove {m : List (α × β)} (h : Sorted m) (k : α) : Sorted (BTreeMap.remove k m) :=
  h.sublist (remove_sublist k m)

theorem Sorted.get?_remove {m : List (α × β)} (h : Sorted m) (k k' : α) :
    get? (BTreeMap.remove k m) k' = if k = k' then none else get? m k' := by
  induction m with
  | nil => simp [BTreeMap.remove]
  | cons q m ih =>
    obtain ⟨k'', v''⟩ := q
    by_cases h1 : k'' = k
    · subst h1
      simp only [BTreeMap.remove, KeyOrd.eqb_iff, if_true, get?_cons]
      by_cases h2 : k'' = k'
      · subst h2; simp [h.get?_head_tail]
      · simp [h2]
    · simp only [BTreeMap.remove, KeyOrd.eqb_iff, if_neg h1, get?_cons, ih h.tail]
      by_cases h2 : k'' = k' <;> by_cases h3 : k = k' <;> simp_all

theorem get?_remove_of_ne {k k' : α} (m : List (α × β)) (h : k ≠ k') : get? (BTreeMap.remove k m) k' = get? m k' := by
  induction m with
  | nil => rfl
  | cons q m ih =>
    obtain ⟨k'', v''⟩ := q
    by_cases h1 : k'' = k
    · subst h1
      simp [BTreeMap.remove, get?_cons, h]
    · simp only [BTreeMap.remove, KeyOrd.eqb_iff, if_neg h1, get?_cons, ih]

/-- `map.insert(k, v)` for `some v` and `map.remove(k)` for `none`: the entry of `k` set to `o`. -/
def set (k : α) : Option β → List (α × β) → List (α × β)
  | none => remove k
  | some v => insert k v

theorem Sorted.set {m : List (α × β)} (h : Sorted m) (k : α) (o : Option β) : Sorted (BTreeMap.set k o m) := by
  cases o
  exacts [h.remove k, h.insert k _]

theorem Sorted.get?_set {m : List (α × β)} (h : Sorted m) (k k' : α) (o : Option β) :
    get? (BTreeMap.set k o m) k' = if k = k' then o else get? m k' := by
  cases o
  exacts [h.get?_remove k k', get?_insert k k' _ m]

theorem Sorted.ext {m m' : List (α × β)} (h : Sorted m) (h' : Sorted m') (hg : ∀ k, get? m k = get? m' k) :
    m = m' := by
  induction m generalizing m' with
  | nil =>
    cases m' with
    | nil => rfl
    | cons p m' => obtain ⟨k, v⟩ := p; simpa using hg k
  | cons p m ih =>
    obtain ⟨k, v⟩ := p
    cases m' with
    | nil => simpa using hg k
    | cons p' m' =>
      obtain ⟨k', v'⟩ := p'
      have below : ∀ {j : α} {w : β} {l : List (α × β)}, Sorted ((j, w) :: l) → ∀ i < j, get? ((j, w) :: l) i = none :=
        fun hl i hi => get?_eq_none_of_lt fun q hq =>
          (List.mem_cons.1 hq).elim (fun e => e ▸ hi) fun hq => hi.trans (hl.lt_of_mem hq)
      obtain rfl : k = k' := by
        rcases lt_trichotomy k k' with hlt | heq | hlt
        · simpa [below h' k hlt] using hg k
        · exact heq
        · simpa [below h k' hlt] using hg k'
      obtain rfl : v = v' := by simpa using hg k
      refine congrArg _ (ih h.tail h'.tail fun j => ?_)
      by_cases hj : k = j
      · subst hj; rw [h.get?_head_tail, h'.get?_head_tail]
      · simpa [get?_cons_of_ne _ _ hj] using hg j

theorem Sorted.set_comm {m : List (α × β)} (h : Sorted m) {k k' : α} (hk : k ≠ k') (o o' : Option β) :
    BTreeMap.set k o (BTreeMap.set k' o' m) = BTreeMap.set k' o' (BTreeMap.set k o m) :=
  ((h.set k' o').set k o).ext ((h.set k o).set k' o') fun j => by
    rw [(h.set k' o').get?_set, h.get?_set, (h.set k o).get?_set, h.get?_set]
    by_cases h1 : k = j <;> by_cases h2 : k' = j <;> simp_all

/-! ## `Itertools::merge_join_by` -/

/-- `itertools::EitherOrBoth`. -/
inductive EitherOrBoth (σ τ : Type) where
  | left (a : σ)
  | right (b : τ)
  | both (a : σ) (b : τ)
deriving DecidableEq, Repr

/-- `EitherOrBoth::both`. -/
def EitherOrBoth.both? {σ τ : Type} : EitherOrBoth σ τ → Option (σ × τ)
  | .both a b => some (a, b)
  | _ => none

/-- `Itertools::merge_join_by`: emit the smaller head (`Less` is the left one), or both heads
when they compare `Equal`. -/
def mergeJoinBy {σ τ : Type} (cmp : σ → τ → Ordering) : List σ → List τ → List (EitherOrBoth σ τ)
  | [], ys => ys.map .right
  | xs@(_ :: _), [] => xs.map .left
  | x :: xs, y :: ys =>
    match cmp x y with
    | .lt => .left x :: mergeJoinBy cmp xs (y :: ys)
    | .gt => .right y :: mergeJoinBy cmp (x :: xs) ys
    | .eq => .both x y :: mergeJoinBy cmp xs ys
termination_by xs ys => xs.length + ys.length

/-- `|(n1, _), (n2, _)| n1.cmp(n2)`: the two entries' keys (specs.rs:215). -/
def cmpKeys (a : α × β) (b : α × γ) : Ordering :=
  if KeyOrd.eqb a.1 b.1 then .eq else if KeyOrd.ltb a.1 b.1 then .lt else .gt

theorem cmpKeys_eq (a : α × β) (b : α × γ) :
    cmpKeys a b = if a.1 = b.1 then .eq else if a.1 < b.1 then .lt else .gt := by
  simp [cmpKeys]

theorem filterMap_congr_get? {xs : List (α × β)} {m m' : List (α × γ)}
    (h : ∀ x ∈ xs, get? m x.1 = get? m' x.1) :
    xs.filterMap (fun x => (get? m x.1).map fun v => (x, (x.1, v))) =
      xs.filterMap (fun x => (get? m' x.1).map fun v => (x, (x.1, v))) :=
  List.filterMap_congr fun x hx => by rw [h x hx]

/-- **The `Both` entries of a merge join of two sorted maps** are, in the left map's order, the
left entries whose key the right map also binds, each with the right map's entry. -/
theorem filterMap_both_mergeJoinBy :
    ∀ (xs : List (α × β)) (ys : List (α × γ)), Sorted xs → Sorted ys →
      (mergeJoinBy cmpKeys xs ys).filterMap EitherOrBoth.both? =
        xs.filterMap (fun x => (get? ys x.1).map fun v => (x, (x.1, v)))
  | [], ys, _, _ => by simp [mergeJoinBy, EitherOrBoth.both?]
  | x :: xs, [], _, _ => by
    simp [mergeJoinBy, EitherOrBoth.both?, List.filterMap_map, Function.comp_def]
  | x :: xs, y :: ys, hx, hy => by
    have hxs : ∀ x' ∈ xs, x.1 < x'.1 := fun _ h => hx.lt_of_mem h
    have hys : ∀ y' ∈ ys, y.1 < y'.1 := fun _ h => hy.lt_of_mem h
    rw [mergeJoinBy]
    rcases lt_trichotomy x.1 y.1 with hlt | heq | hgt
    · have hc : cmpKeys x y = .lt := by simp [cmpKeys_eq, ne_of_lt hlt, hlt]
      have hn : get? (y :: ys) x.1 = none :=
        get?_eq_none_of_lt fun p hp => by
          rcases List.mem_cons.1 hp with rfl | hp
          · exact hlt
          · exact hlt.trans (hys p hp)
      simp only [hc, List.filterMap_cons, EitherOrBoth.both?, hn, Option.map_none']
      exact filterMap_both_mergeJoinBy xs (y :: ys) hx.tail hy
    · have hc : cmpKeys x y = .eq := by simp [cmpKeys_eq, heq]
      obtain ⟨k, v⟩ := y
      simp only at heq
      subst heq
      simp only [hc, List.filterMap_cons, EitherOrBoth.both?, get?_cons_self, Option.map_some']
      rw [filterMap_both_mergeJoinBy xs ys hx.tail hy.tail]
      exact congrArg _ (filterMap_congr_get? fun x' hx' =>
        (get?_cons_of_ne _ _ (ne_of_lt (hxs x' hx'))).symm)
    · have hc : cmpKeys x y = .gt := by
        simp [cmpKeys_eq, ne_of_gt hgt, not_lt_of_gt hgt]
      simp only [hc, List.filterMap_cons, EitherOrBoth.both?]
      rw [filterMap_both_mergeJoinBy (x :: xs) ys hx hy.tail]
      refine filterMap_congr_get? fun x' hx' => (get?_cons_of_ne _ _ (ne_of_lt ?_)).symm
      rcases List.mem_cons.1 hx' with rfl | hx'
      · exact hgt
      · exact hgt.trans (hxs x' hx')
termination_by xs ys => xs.length + ys.length

end BTreeMap

end FlowCore
