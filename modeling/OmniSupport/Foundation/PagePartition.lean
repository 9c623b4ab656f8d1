import Mathlib.Data.List.Pairwise
import OmniSupport.Foundation.Paging

/-! Pages read by one query each: rows with equal sort keys may stand in another order in every
query, and the pages make up the rows whatever the orders are exactly when no class of equal
keys extends over the end of a page. -/
namespace Foundation.Paging
variable {ρ : Type}

/-- A comparison by a sort key: rows may be equal in it, but not incomparable. -/
structure Sorts (le : ρ → ρ → Bool) : Prop where
  trans : ∀ a b c, le a b = true → le b c = true → le a c = true
  total : ∀ a b, (le a b || le b a) = true

theorem Sorts.of_key {κ : Type} [LinearOrder κ] (key : ρ → κ) :
    Sorts fun a b => decide (key a ≤ key b) where
  trans a b c hab hbc := decide_eq_true ((of_decide_eq_true hab).trans (of_decide_eq_true hbc))
  total a b := by
    rw [Bool.or_eq_true, decide_eq_true_eq, decide_eq_true_eq]
    exact le_total (key a) (key b)

theorem Sorts.flip {le : ρ → ρ → Bool} (h : Sorts le) : Sorts fun a b => le b a where
  trans a b c hba hcb := h.trans c b a hcb hba
  total a b := h.total b a

/-- The number of rows that stand before `r` in every order. -/
def below (le : ρ → ρ → Bool) (rows : List ρ) (r : ρ) : Nat := rows.countP fun x => !le r x

/-- The number of rows that do not stand after `r` in every order. -/
def upTo (le : ρ → ρ → Bool) (rows : List ρ) (r : ρ) : Nat := rows.countP fun x => le x r

/-- The rows with the sort key of `r` stand on one page in every order. -/
def OnOnePage (le : ρ → ρ → Bool) (limit : Nat) (rows : List ρ) (r : ρ) : Prop :=
  below le rows r / limit = (upTo le rows r - 1) / limit

instance (le : ρ → ρ → Bool) (limit : Nat) (rows : List ρ) (r : ρ) :
    Decidable (OnOnePage le limit rows r) :=
  inferInstanceAs (Decidable (_ = _))

section order
variable {le : ρ → ρ → Bool} {ties : Nat → Nat} {rows : List ρ} {r : ρ}

/-- The comparison of rows with the tie numbers of their positions. -/
def tieLe (le : ρ → ρ → Bool) (ties : Nat → Nat) (x y : ρ × Nat) : Bool :=
  le x.1 y.1 && (!le y.1 x.1 || ties x.2 ≤ ties y.2)

theorem Sorts.refl (h : Sorts le) (a : ρ) : le a a = true := by
  simpa using h.total a a

theorem Sorts.tieLe (h : Sorts le) (ties : Nat → Nat) : Sorts (tieLe le ties) where
  trans a b c hab hbc := by
    simp only [Paging.tieLe, Bool.and_eq_true, Bool.or_eq_true, Bool.not_eq_true',
      decide_eq_true_eq] at hab hbc ⊢
    refine ⟨h.trans _ _ _ hab.1 hbc.1, ?_⟩
    cases hca : le c.1 a.1 with
    | false => exact .inl rfl
    | true =>
      have hba : le b.1 a.1 = true := h.trans _ _ _ hbc.1 hca
      have hcb : le c.1 b.1 = true := h.trans _ _ _ hca hab.1
      rw [hba] at hab
      rw [hcb] at hbc
      have hfirst := hab.2.resolve_left (by simp)
      have hsecond := hbc.2.resolve_left (by simp)
      exact .inr (hfirst.trans hsecond)
  total a b := by
    have htotal := h.total a.1 b.1
    cases hab : le a.1 b.1 <;> cases hba : le b.1 a.1 <;>
      simp [Paging.tieLe, hab, hba, Nat.le_total] at htotal ⊢

theorem pairwise_mergeSort_of_sorts {α : Type} {le : α → α → Bool} (h : Sorts le) (l : List α) :
    (l.mergeSort le).Pairwise fun a b => le a b = true :=
  List.pairwise_mergeSort h.trans h.total l

/-- Whatever the ties, the rows before a row are not after it in the order of the keys, and
those behind it not before. -/
theorem orderRows_pairwise (h : Sorts le) (ties : Nat → Nat) (rows : List ρ) :
    (orderRows le ties rows).Pairwise fun a b => le a b = true := by
  have hsorted := pairwise_mergeSort_of_sorts (h.tieLe ties) rows.zipIdx
  refine List.pairwise_map.mpr (hsorted.imp fun hab => ?_)
  exact (Bool.and_eq_true _ _ ▸ hab).1

/-- The place of a row in any order. -/
theorem place_bounds (h : Sorts le) {before after : List ρ}
    (hsplit : orderRows le ties rows = before ++ r :: after) :
    below le rows r ≤ before.length ∧ before.length + 1 ≤ upTo le rows r := by
  have hsorted := orderRows_pairwise h ties rows
  have hperm := orderRows_perm le ties rows
  rw [hsplit] at hsorted hperm
  obtain ⟨-, hbehind, hbefore⟩ := List.pairwise_append.mp hsorted
  constructor
  · have hnone : (r :: after).countP (fun x => !le r x) = 0 := by
      rw [List.countP_eq_zero]
      intro x hx
      rcases List.mem_cons.mp hx with rfl | hx
      · simp [h.refl]
      · simp [List.rel_of_pairwise_cons hbehind hx]
    rw [below, ← hperm.countP_eq, List.countP_append, hnone]
    exact List.countP_le_length
  · have hall : before.countP (fun x => le x r) = before.length := by
      rw [List.countP_eq_length]
      exact fun x hx => hbefore x hx r List.mem_cons_self
    have hself : 1 ≤ (r :: after).countP fun x => le x r :=
      List.countP_pos_iff.mpr ⟨r, List.mem_cons_self, h.refl r⟩
    rw [upTo, ← hperm.countP_eq, List.countP_append, hall]
    exact Nat.add_le_add_left hself _

theorem exists_mem_zipIdx (hr : r ∈ rows) : ∃ i, (r, i) ∈ rows.zipIdx := by
  obtain ⟨i, hi, hget⟩ := List.mem_iff_getElem.mp hr
  refine ⟨i, ?_⟩
  rw [List.mem_zipIdx_iff_getElem?, List.getElem?_eq_getElem hi, hget]

/-- Where a row stands among the rows with their positions. -/
theorem exists_split (h : Sorts le) (ties : Nat → Nat) {i : Nat} (hi : (r, i) ∈ rows.zipIdx) :
    ∃ before after : List (ρ × Nat),
      orderRows le ties rows = before.map Prod.fst ++ r :: after.map Prod.fst ∧
      (∀ x ∈ before, x.2 ≠ i ∧ tieLe le ties x (r, i) = true) ∧
      ∀ x ∈ after, x.2 ≠ i ∧ tieLe le ties (r, i) x = true := by
  have hperm := List.mergeSort_perm rows.zipIdx (tieLe le ties)
  have hsorted := pairwise_mergeSort_of_sorts (h.tieLe ties) rows.zipIdx
  obtain ⟨before, after, hsplit⟩ := List.append_of_mem (hperm.mem_iff.mpr hi)
  have hnodup : ((before ++ (r, i) :: after).map Prod.snd).Nodup := by
    rw [← hsplit, (hperm.map Prod.snd).nodup_iff, List.zipIdx_map_snd]
    exact List.nodup_range'
  have horder : orderRows le ties rows = (rows.zipIdx.mergeSort (tieLe le ties)).map Prod.fst :=
    rfl
  rw [hsplit] at hsorted horder
  obtain ⟨-, hbehind, hbefore⟩ := List.pairwise_append.mp hsorted
  rw [List.map_append, List.map_cons, List.nodup_append, List.nodup_cons] at hnodup
  refine ⟨before, after, by simpa using horder, fun x hx => ⟨fun heq => ?_, ?_⟩,
    fun x hx => ⟨fun heq => ?_, ?_⟩⟩
  · exact hnodup.2.2 x.2 (List.mem_map_of_mem hx) i List.mem_cons_self heq
  · exact hbefore x hx (r, i) List.mem_cons_self
  · have hmem := List.mem_map_of_mem (f := Prod.snd) hx
    rw [heq] at hmem
    exact hnodup.2.1.1 hmem
  · exact List.rel_of_pairwise_cons hbehind hx

/-- Any row may be the first of its class. -/
theorem exists_first (h : Sorts le) (hr : r ∈ rows) :
    ∃ ties before after, orderRows le ties rows = before ++ r :: after ∧
      before.length = below le rows r := by
  obtain ⟨i, hi⟩ := exists_mem_zipIdx hr
  let ties : Nat → Nat := fun j => if j = i then 0 else 1
  obtain ⟨before, after, horder, hbefore, -⟩ := exists_split h ties hi
  refine ⟨ties, _, _, horder, ?_⟩
  have hall : (before.map Prod.fst).countP (fun x => !le r x) = (before.map Prod.fst).length := by
    rw [List.countP_eq_length]
    intro x hx
    obtain ⟨entry, hentry, rfl⟩ := List.mem_map.mp hx
    obtain ⟨hother, hle⟩ := hbefore entry hentry
    simp only [tieLe, ties, hother, if_true, if_false, Bool.and_eq_true, Bool.or_eq_true,
      decide_eq_true_eq] at hle
    exact hle.2.resolve_right (by omega)
  have hle : (before.map Prod.fst).length ≤ below le rows r := by
    rw [below, ← (orderRows_perm le ties rows).countP_eq, horder, List.countP_append, hall]
    exact Nat.le_add_right _ _
  exact Nat.le_antisymm hle (place_bounds h horder).1

/-- Any row may be the last of its class. -/
theorem exists_last (h : Sorts le) (hr : r ∈ rows) :
    ∃ ties before after, orderRows le ties rows = before ++ r :: after ∧
      before.length + 1 = upTo le rows r := by
  obtain ⟨i, hi⟩ := exists_mem_zipIdx hr
  let ties : Nat → Nat := fun j => if j = i then 1 else 0
  obtain ⟨before, after, horder, -, hafter⟩ := exists_split h ties hi
  refine ⟨ties, _, _, horder, ?_⟩
  have hnone : (after.map Prod.fst).countP (fun x => le x r) = 0 := by
    rw [List.countP_eq_zero]
    intro x hx
    obtain ⟨entry, hentry, rfl⟩ := List.mem_map.mp hx
    obtain ⟨hother, hle⟩ := hafter entry hentry
    simp only [tieLe, ties, hother, if_true, if_false, Bool.and_eq_true, Bool.or_eq_true,
      decide_eq_true_eq, Bool.not_eq_true'] at hle
    simpa using hle.2.resolve_right (by omega)
  have hle : upTo le rows r ≤ (before.map Prod.fst).length + 1 := by
    rw [upTo, ← (orderRows_perm le ties rows).countP_eq, horder, List.countP_append,
      List.countP_cons, hnone]
    have hbefore : (before.map Prod.fst).countP (fun x => le x r) ≤
        (before.map Prod.fst).length := List.countP_le_length
    split <;> omega
  exact Nat.le_antisymm (place_bounds h horder).2 hle

end order

section pages
variable {le : ρ → ρ → Bool} {limit : Nat} {rows : List ρ} {r : ρ}

/-- The page a row stands on is given by its place. -/
theorem mem_page_iff (hpos : 0 < limit) {l : List ρ} {k : Nat} :
    r ∈ page (k * limit) limit l ↔
      ∃ before after, l = before ++ r :: after ∧ before.length / limit = k := by
  constructor
  · intro h
    obtain ⟨q, hq, hget⟩ := List.mem_iff_getElem.mp h
    have hlen : q < limit ∧ k * limit + q < l.length := by
      rw [page, List.length_take, List.length_drop] at hq
      omega
    have hplace : l[k * limit + q] = r := by
      simpa only [page, List.getElem_take, List.getElem_drop] using hget
    refine ⟨l.take (k * limit + q), l.drop (k * limit + q + 1), ?_, ?_⟩
    · rw [← hplace, List.getElem_cons_drop, List.take_append_drop]
    · rw [List.length_take, Nat.min_eq_left hlen.2.le, Nat.mul_comm, Nat.mul_add_div hpos,
        Nat.div_eq_of_lt hlen.1, Nat.add_zero]
  · rintro ⟨before, after, rfl, rfl⟩
    have hmod : before.length % limit < limit := Nat.mod_lt _ hpos
    have hplace : before.length / limit * limit + before.length % limit = before.length :=
      Nat.div_add_mod' _ _
    rw [List.mem_iff_getElem?]
    refine ⟨before.length % limit, ?_⟩
    rw [page, List.getElem?_take_of_lt hmod, List.getElem?_drop, hplace]
    simp

/-- A row whose class fits on one page stands on that page in every order. -/
theorem page_eq (h : Sorts le) (hpos : 0 < limit) (hone : OnOnePage le limit rows r)
    {ties : Nat → Nat} {k : Nat} (hmem : r ∈ page (k * limit) limit (orderRows le ties rows)) :
    k = below le rows r / limit := by
  obtain ⟨before, after, hsplit, rfl⟩ := (mem_page_iff hpos).mp hmem
  obtain ⟨hlower, hupper⟩ := place_bounds h hsplit
  have hle : before.length ≤ upTo le rows r - 1 := by omega
  have hupper' : before.length / limit ≤ below le rows r / limit := by
    rw [hone]
    exact Nat.div_le_div_right hle
  exact Nat.le_antisymm hupper' (Nat.div_le_div_right hlower)

/-- A row that shares its sort key with no other stands on one page. -/
theorem onOnePage_of_distinct (h : Sorts le) (hnodup : rows.Nodup) (hr : r ∈ rows)
    (hdistinct : ∀ x ∈ rows, le r x = true → le x r = true → x = r) :
    OnOnePage le limit rows r := by
  obtain ⟨ties, before, after, hsplit, hbelow⟩ := exists_first h hr
  have hperm := orderRows_perm le ties rows
  have hsorted := orderRows_pairwise h ties rows
  rw [hsplit] at hperm hsorted
  have hnone : after.countP (fun x => le x r) = 0 := by
    rw [List.countP_eq_zero]
    intro x hx hle
    have hge : le r x = true :=
      List.rel_of_pairwise_cons (List.pairwise_append.mp hsorted).2.1 hx
    have hmem : x ∈ rows := hperm.mem_iff.mp (by simp [hx])
    have hnew : r ∉ after := (List.nodup_cons.mp
      (List.nodup_append.mp (hperm.nodup_iff.mpr hnodup)).2.1).1
    exact hnew (hdistinct x hmem hge hle ▸ hx)
  have hupTo : upTo le rows r ≤ before.length + 1 := by
    rw [upTo, ← hperm.countP_eq, List.countP_append, List.countP_cons, hnone]
    have hbefore : before.countP (fun x => le x r) ≤ before.length := List.countP_le_length
    split <;> omega
  have hplace := (place_bounds h hsplit).2
  have heq : upTo le rows r - 1 = below le rows r := by omega
  rw [OnOnePage, heq]

theorem page_lt {l before after : List ρ} {n : Nat} (hpos : 0 < limit)
    (hsplit : l = before ++ r :: after) (hn : l.length ≤ n * limit) :
    before.length / limit < n := by
  rw [Nat.div_lt_iff_lt_mul hpos]
  refine Nat.lt_of_lt_of_le ?_ hn
  rw [hsplit, List.length_append, List.length_cons]
  omega

/-- Pages of one and the same list follow each other in it. -/
theorem flatMap_page (limit : Nat) (l : List ρ) (n : Nat) :
    (List.range n).flatMap (fun k => page (k * limit) limit l) = l.take (n * limit) := by
  induction n with
  | zero => simp
  | succ n ih =>
    rw [List.range_succ, List.flatMap_append, ih, List.flatMap_singleton, page, Nat.succ_mul,
      List.take_add]

theorem disjoint_of_nodup_flatMap {α β : Type} {f : α → List β} {l : List α} {a b : α}
    (h : (l.flatMap f).Nodup) (ha : a ∈ l) (hb : b ∈ l) (hab : a ≠ b) :
    (f a).Disjoint (f b) := by
  have : Std.Symm (Function.onFun List.Disjoint f) := ⟨fun _ _ hdisjoint _ hb ha => hdisjoint ha hb⟩
  exact (List.nodup_flatMap.mp h).2.forall ha hb hab

/-- The pages make up the rows, whatever order each query chooses, exactly when no class of equal
sort keys extends over the end of a page. -/
theorem pages_partition_iff (h : Sorts le) (hpos : 0 < limit) (hnodup : rows.Nodup) {n : Nat}
    (hn : rows.length ≤ n * limit) :
    (∀ ties : Nat → Nat → Nat, ((List.range n).flatMap fun k =>
        page (k * limit) limit (orderRows le (ties k) rows)).Perm rows) ↔
      ∀ r ∈ rows, OnOnePage le limit rows r := by
  have hlength : ∀ ties, (orderRows le ties rows).length ≤ n * limit := by
    intro ties
    rw [(orderRows_perm le ties rows).length_eq]
    exact hn
  constructor
  · intro hall r hr
    by_contra hne
    obtain ⟨first, before, after, hfirst, hbelow⟩ := exists_first h hr
    obtain ⟨last, before', after', hlast, hupTo⟩ := exists_last h hr
    let k := before.length / limit
    let j := before'.length / limit
    have hkj : k ≠ j := by
      intro heq
      refine hne ?_
      have hplace : before'.length = upTo le rows r - 1 := by omega
      rw [OnOnePage, ← hbelow, ← hplace]
      exact heq
    have hk : k < n := page_lt hpos hfirst (hlength first)
    have hj : j < n := page_lt hpos hlast (hlength last)
    have hpages := hall fun m => if m = k then first else last
    have hflat := (hpages.nodup_iff).mpr hnodup
    have hdisjoint := disjoint_of_nodup_flatMap hflat (List.mem_range.mpr hk)
      (List.mem_range.mpr hj) hkj
    refine hdisjoint (a := r) ?_ ?_
    · simp only [if_true]
      exact (mem_page_iff hpos).mpr ⟨before, after, hfirst, rfl⟩
    · simp only [if_neg hkj.symm]
      exact (mem_page_iff hpos).mpr ⟨before', after', hlast, rfl⟩
  · intro hone ties
    have hpage : ∀ k, (page (k * limit) limit (orderRows le (ties k) rows)).Nodup := by
      intro k
      have hsub := (List.take_sublist limit _).trans
        (List.drop_sublist (k * limit) (orderRows le (ties k) rows))
      exact (((orderRows_perm le (ties k) rows).nodup_iff).mpr hnodup).sublist hsub
    have hflat : ((List.range n).flatMap fun k =>
        page (k * limit) limit (orderRows le (ties k) rows)).Nodup := by
      refine List.nodup_flatMap.mpr ⟨fun k _ => hpage k, List.nodup_range.imp ?_⟩
      intro k j hkj r hk hj
      have hr : r ∈ rows := mem_orderRows.mp (mem_of_mem_page hk)
      exact hkj ((page_eq h hpos (hone r hr) hk).trans (page_eq h hpos (hone r hr) hj).symm)
    rw [List.perm_ext_iff_of_nodup hflat hnodup]
    intro r
    rw [List.mem_flatMap]
    constructor
    · rintro ⟨k, -, hk⟩
      exact mem_orderRows.mp (mem_of_mem_page hk)
    · intro hr
      let k := below le rows r / limit
      have hmem : r ∈ orderRows le (ties k) rows := mem_orderRows.mpr hr
      obtain ⟨before, after, hsplit⟩ := List.append_of_mem hmem
      have hon : r ∈ page (before.length / limit * limit) limit (orderRows le (ties k) rows) :=
        (mem_page_iff hpos).mpr ⟨before, after, hsplit, rfl⟩
      have hplace : before.length / limit = k := page_eq h hpos (hone r hr) hon
      refine ⟨k, List.mem_range.mpr ?_, hplace ▸ hon⟩
      exact hplace ▸ page_lt hpos hsplit (hlength (ties k))

end pages
end Foundation.Paging
