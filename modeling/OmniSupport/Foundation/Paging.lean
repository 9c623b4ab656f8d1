import Mathlib.Data.List.Sort
import Mathlib.Tactic.Common

/-! Ordered queries: rows with equal sort keys stand in the order of the tie numbers of
their positions. The result is read in pages, or in batches that a cursor continues. -/
namespace Foundation.Paging
variable {ρ κ : Type}

def orderRows (le : ρ → ρ → Bool) (ties : Nat → Nat) (rows : List ρ) : List ρ :=
  (rows.zipIdx.mergeSort fun r r' =>
    le r.1 r'.1 && (!le r'.1 r.1 || ties r.2 ≤ ties r'.2)).map Prod.fst

/-- `OFFSET skip LIMIT limit`. -/
def page (skip limit : Nat) (rows : List ρ) : List ρ := (rows.drop skip).take limit

theorem orderRows_perm (le : ρ → ρ → Bool) (ties : Nat → Nat) (rows : List ρ) :
    (orderRows le ties rows).Perm rows := by
  have hsort := (List.mergeSort_perm rows.zipIdx fun r r' =>
    le r.1 r'.1 && (!le r'.1 r.1 || ties r.2 ≤ ties r'.2)).map Prod.fst
  rwa [List.zipIdx_map_fst] at hsort

theorem mem_orderRows {le : ρ → ρ → Bool} {ties : Nat → Nat} {rows : List ρ} {row : ρ} :
    row ∈ orderRows le ties rows ↔ row ∈ rows :=
  (orderRows_perm le ties rows).mem_iff

theorem mem_of_mem_page {skip limit : Nat} {rows : List ρ} {row : ρ}
    (h : row ∈ page skip limit rows) : row ∈ rows :=
  List.mem_of_mem_drop (List.mem_of_mem_take h)

/-- Every row stands on one of the pages. -/
theorem exists_page {limit : Nat} (hpos : 0 < limit) {rows : List ρ} {row : ρ} (h : row ∈ rows) :
    ∃ n, row ∈ page (n * limit) limit rows := by
  obtain ⟨i, hi, rfl⟩ := List.mem_iff_getElem.mp h
  refine ⟨i / limit, ?_⟩
  have hmod : i % limit < limit := Nat.mod_lt i hpos
  have hsplit : i / limit * limit + i % limit = i := Nat.div_add_mod' i limit
  have hlen : i % limit < (page (i / limit * limit) limit rows).length := by
    rw [page, List.length_take, List.length_drop]
    omega
  have hget : (page (i / limit * limit) limit rows)[i % limit] = rows[i] := by
    simp only [page, List.getElem_take, List.getElem_drop, hsplit]
  rw [← hget]
  exact List.getElem_mem hlen

section batches
variable [LinearOrder κ] {key : ρ → κ} {table : List ρ}

def byKey (key : ρ → κ) (rows : List ρ) : List ρ := rows.mergeSort fun r r' => key r ≤ key r'

/-- `take: size` in the order of a key, or with a cursor the rows after its row: none when
that row is gone. -/
def batch (key : ρ → κ) (size : Nat) (p : ρ → Bool) (cursor : Option κ) (table : List ρ) :
    List ρ :=
  match cursor with
  | none => (byKey key (table.filter p)).take size
  | some k =>
    if ∃ r ∈ table, key r = k then
      page 1 size (byKey key (table.filter fun r => p r && k ≤ key r))
    else []

theorem byKey_perm (key : ρ → κ) (rows : List ρ) : (byKey key rows).Perm rows :=
  List.mergeSort_perm _ _

theorem byKey_pairwise (key : ρ → κ) (rows : List ρ) :
    (byKey key rows).Pairwise fun r r' => key r ≤ key r' := by
  have htrans : ∀ a b c : ρ, decide (key a ≤ key b) = true → decide (key b ≤ key c) = true →
      decide (key a ≤ key c) = true := by
    intro a b c hab hbc
    rw [decide_eq_true_eq] at hab hbc ⊢
    exact hab.trans hbc
  have htotal : ∀ a b : ρ, (decide (key a ≤ key b) || decide (key b ≤ key a)) = true := by
    intro a b
    rw [Bool.or_eq_true, decide_eq_true_eq, decide_eq_true_eq]
    exact le_total (key a) (key b)
  exact (List.pairwise_mergeSort htrans htotal rows).imp of_decide_eq_true

theorem byKey_of_lt {rows : List ρ} (h : rows.Pairwise fun r r' => key r < key r') :
    byKey key rows = rows :=
  List.mergeSort_of_pairwise (h.imp fun hlt => decide_eq_true hlt.le)

theorem byKey_lt (hkeys : (table.map key).Nodup) (p : ρ → Bool) :
    (byKey key (table.filter p)).Pairwise fun r r' => key r < key r' := by
  have hnodup : ((byKey key (table.filter p)).map key).Nodup := by
    rw [((byKey_perm key (table.filter p)).map key).nodup_iff]
    exact hkeys.sublist (List.filter_sublist.map key)
  have hne : (byKey key (table.filter p)).Pairwise fun r r' => key r ≠ key r' :=
    List.pairwise_map.mp hnodup
  exact (hne.and (byKey_pairwise key _)).imp fun h => lt_of_le_of_ne h.2 h.1

/-- The batch at a cursor goes on where the rows up to it end. -/
theorem batch_after (hkeys : (table.map key).Nodup) {size : Nat} {p : ρ → Bool}
    {seen rest : List ρ} {last : ρ}
    (h : byKey key (table.filter p) = seen ++ last :: rest) :
    batch key size p (some (key last)) table = rest.take size := by
  have hsorted : (seen ++ last :: rest).Pairwise fun r r' => key r < key r' :=
    h ▸ byKey_lt hkeys p
  have hlast : last ∈ table.filter p := by
    rw [← (byKey_perm key (table.filter p)).mem_iff, h]
    simp
  have hfrom : (seen ++ last :: rest).filter (fun r => key last ≤ key r) = last :: rest := by
    obtain ⟨-, htail, hbefore⟩ := List.pairwise_append.mp hsorted
    have hseen : seen.filter (fun r => key last ≤ key r) = [] := by
      rw [List.filter_eq_nil_iff]
      intro r hr
      rw [decide_eq_true_eq, not_le]
      exact hbefore r hr last List.mem_cons_self
    have hrest : (last :: rest).filter (fun r => key last ≤ key r) = last :: rest := by
      rw [List.filter_eq_self]
      intro r hr
      rw [decide_eq_true_eq]
      rcases List.mem_cons.mp hr with rfl | hr
      · exact le_refl _
      · exact (List.rel_of_pairwise_cons htail hr).le
    rw [List.filter_append, hseen, hrest, List.nil_append]
  have hselect : byKey key (table.filter fun r => p r && key last ≤ key r) = last :: rest := by
    have hperm : (byKey key (table.filter fun r => p r && key last ≤ key r)).Perm
        (last :: rest) := by
      have hsplit : (table.filter fun r => p r && key last ≤ key r) =
          (table.filter p).filter fun r => key last ≤ key r := by
        rw [List.filter_filter]
        exact List.filter_congr fun r _ => Bool.and_comm _ _
      rw [← hfrom, ← h, hsplit]
      exact (byKey_perm key _).trans ((byKey_perm key (table.filter p)).filter _).symm
    have hless : (last :: rest).Pairwise fun r r' => key r < key r' :=
      (List.pairwise_append.mp hsorted).2.1
    refine hperm.eq_of_pairwise (fun a b _ _ hab hba => ?_) (byKey_lt hkeys _) hless
    exact absurd hab hba.not_gt
  have hexists : ∃ r ∈ table, key r = key last := ⟨last, List.mem_of_mem_filter hlast, rfl⟩
  simp only [batch, hexists, if_true]
  rw [hselect]
  rfl

/-- The batch behind the cursor leaves out the row with key `k`: the row of the cursor is gone,
or it no longer satisfies `p`, and the row left out is the first one that does. -/
def Skips (key : ρ → κ) (p : ρ → Bool) : Option κ → List ρ → κ → Prop
  | none, _, _ => False
  | some c, table, k =>
    c < k ∧ ((∀ r ∈ table, key r ≠ c) ∨ ∀ r ∈ table, p r → c ≤ key r → k ≤ key r)

instance (key : ρ → κ) (p : ρ → Bool) :
    ∀ (cursor : Option κ) (table : List ρ) (k : κ), Decidable (Skips key p cursor table k)
  | none, _, _ => isFalse id
  | some _, _, _ => inferInstanceAs (Decidable (_ ∧ _))

section cursor
variable {size : Nat} {p : ρ → Bool} {cursor : Option κ} {r : ρ} {c k : κ}

/-- With a cursor the batch is part of the rows behind the first one at or behind it. -/
theorem batch_cursor (hc : ∃ r ∈ table, key r = c) :
    batch key size p (some c) table =
      ((byKey key (table.filter fun r => p r && c ≤ key r)).drop 1).take size := by
  simp only [batch, hc, if_true, page]

theorem batch_gone (hc : ¬ ∃ r ∈ table, key r = c) : batch key size p (some c) table = [] := by
  simp only [batch, hc, if_false]

theorem mem_byKey_cursor : r ∈ byKey key (table.filter fun r => p r && c ≤ key r) ↔
    r ∈ table ∧ p r = true ∧ c ≤ key r := by
  rw [(byKey_perm key _).mem_iff, List.mem_filter, Bool.and_eq_true, decide_eq_true_eq]

theorem batch_sorted (hkeys : (table.map key).Nodup) :
    (batch key size p cursor table).Pairwise fun r r' => key r < key r' := by
  cases cursor with
  | none => exact (byKey_lt hkeys p).sublist (List.take_sublist _ _)
  | some c =>
    by_cases hc : ∃ r ∈ table, key r = c
    · rw [batch_cursor hc]
      have hsub := (List.take_sublist size _).trans
        (List.drop_sublist 1 (byKey key (table.filter fun r => p r && c ≤ key r)))
      exact (byKey_lt hkeys _).sublist hsub
    · rw [batch_gone hc]
      exact List.Pairwise.nil

theorem mem_of_mem_batch (h : r ∈ batch key size p cursor table) : r ∈ table := by
  cases cursor with
  | none =>
    have hr := (byKey_perm key _).mem_iff.mp (List.mem_of_mem_take h)
    exact List.mem_of_mem_filter hr
  | some c =>
    by_cases hc : ∃ r ∈ table, key r = c
    · rw [batch_cursor hc] at h
      exact (mem_byKey_cursor.mp (List.mem_of_mem_drop (List.mem_of_mem_take h))).1
    · rw [batch_gone hc] at h
      cases h

/-- A row of the batch stands behind another row at or behind the cursor. -/
theorem exists_lt_of_mem_batch (hkeys : (table.map key).Nodup)
    (h : r ∈ batch key size p (some c) table) :
    (∃ r ∈ table, key r = c) ∧ ∃ first ∈ table, p first = true ∧ c ≤ key first ∧
      key first < key r := by
  by_cases hc : ∃ r ∈ table, key r = c
  · rw [batch_cursor hc] at h
    have hsorted := byKey_lt hkeys fun r => p r && c ≤ key r
    have hmem : ∀ r, r ∈ byKey key (table.filter fun r => p r && c ≤ key r) ↔
        r ∈ table ∧ p r = true ∧ c ≤ key r := fun _ => mem_byKey_cursor
    have hr := List.mem_of_mem_take h
    cases hrows : byKey key (table.filter fun r => p r && c ≤ key r) with
    | nil =>
      rw [hrows] at hr
      cases hr
    | cons first rest =>
      rw [hrows] at hsorted hr hmem
      obtain ⟨hfirst, hp, hle⟩ := (hmem first).mp List.mem_cons_self
      exact ⟨hc, first, hfirst, hp, hle, List.rel_of_pairwise_cons hsorted hr⟩
  · rw [batch_gone hc] at h
    cases h

theorem lt_of_mem_batch (hkeys : (table.map key).Nodup)
    (h : r ∈ batch key size p (some c) table) : c < key r := by
  obtain ⟨-, first, -, -, hle, hlt⟩ := exists_lt_of_mem_batch hkeys h
  exact hle.trans_lt hlt

/-- All rows of a batch stand behind the rows that it skips. -/
theorem lt_of_skips (hkeys : (table.map key).Nodup) (hskips : Skips key p cursor table k)
    (h : r ∈ batch key size p cursor table) : k < key r := by
  cases cursor with
  | none => cases hskips
  | some c =>
    obtain ⟨⟨r₀, hr₀, hkey⟩, first, hfirst, hp, hle, hlt⟩ := exists_lt_of_mem_batch hkeys h
    rcases hskips.2 with hgone | hnext
    · exact absurd hkey (hgone r₀ hr₀)
    · exact (hnext first hfirst hp hle).trans_lt hlt

theorem mem_take_or_full {rows : List ρ}
    (hsorted : rows.Pairwise fun r r' => key r < key r') (hr : r ∈ rows) :
    r ∈ rows.take size ∨
      (rows.take size).length = size ∧ ∀ r' ∈ rows.take size, key r' < key r := by
  by_cases htake : r ∈ rows.take size
  · exact .inl htake
  · have hsplit : rows.take size ++ rows.drop size = rows := List.take_append_drop size rows
    have hdrop : r ∈ rows.drop size := by
      rw [← hsplit] at hr
      exact (List.mem_append.mp hr).resolve_left htake
    have hlength : 0 < (rows.drop size).length := List.length_pos_of_mem hdrop
    rw [List.length_drop] at hlength
    rw [← hsplit] at hsorted
    refine .inr ⟨?_, fun r' hr' => ?_⟩
    · rw [List.length_take]
      omega
    · exact (List.pairwise_append.mp hsorted).2.2 r' hr' r hdrop

/-- A row behind the cursor that is not skipped is in the batch or behind all of a full one. -/
theorem mem_batch_or_full (hkeys : (table.map key).Nodup) (hr : r ∈ table) (hp : p r = true)
    (hbehind : ∀ c, cursor = some c → c < key r) (hskips : ¬ Skips key p cursor table (key r)) :
    r ∈ batch key size p cursor table ∨ (batch key size p cursor table).length = size ∧
      ∀ r' ∈ batch key size p cursor table, key r' < key r := by
  cases cursor with
  | none =>
    have hmem : r ∈ byKey key (table.filter p) :=
      (byKey_perm key _).mem_iff.mpr (List.mem_filter.mpr ⟨hr, hp⟩)
    exact mem_take_or_full (byKey_lt hkeys p) hmem
  | some c =>
    have hlt := hbehind c rfl
    by_cases hc : ∃ r ∈ table, key r = c
    · rw [batch_cursor hc]
      have hsorted := byKey_lt hkeys fun r => p r && c ≤ key r
      have hmem : ∀ r, r ∈ byKey key (table.filter fun r => p r && c ≤ key r) ↔
          r ∈ table ∧ p r = true ∧ c ≤ key r := fun _ => mem_byKey_cursor
      have hrow := (hmem r).mpr ⟨hr, hp, hlt.le⟩
      cases hrows : byKey key (table.filter fun r => p r && c ≤ key r) with
      | nil =>
        rw [hrows] at hrow
        cases hrow
      | cons first rest =>
        rw [hrows] at hsorted hrow hmem
        refine mem_take_or_full (List.Pairwise.of_cons hsorted) ?_
        -- were it the first one, it would be skipped
        refine (List.mem_cons.mp hrow).resolve_left fun hfirst => hskips ⟨hlt, .inr ?_⟩
        intro r' hr' hp' hle
        rcases List.mem_cons.mp ((hmem r').mpr ⟨hr', hp', hle⟩) with rfl | hrest
        · rw [hfirst]
        · rw [hfirst]
          exact (List.rel_of_pairwise_cons hsorted hrest).le
    · refine absurd ⟨hlt, .inl fun r hr hkey => hc ⟨r, hr, hkey⟩⟩ hskips

end cursor
end batches
end Foundation.Paging
