import OmniSupport.Database.ServiceRules
import OmniSupport.Foundation.Groups
import OmniSupport.Identity.AccountService

/-! Tenant slugs: what the rewrites of `TenantSlug.create` make of a text, and that they leave a
slug as it is. -/
namespace OmniSupport.Identity
open Foundation Database Text

/-- `mapPrismaTenantToEntity`; the other columns are taken over. -/
def mapPrismaTenantToEntity (record : Tenant) : Except AppError TenantEntity :=
  (tenantSlug record.slug).map fun slug => TenantEntity.reconstitute { record with slug := slug }

/-- The slug before it is checked. -/
def slugText (input : String) : String :=
  JsText.trimHyphens (JsText.othersToHyphen (JsText.trim (JsText.toLowerCase input)))

/-- The groups of ASCII letters and digits, in lower case. -/
def alphanumericGroups (input : String) : List (List Char) :=
  (groups Char.isAlphanum input.toList).map (List.map Char.toLower)

abbrev slugGroups (text : List Char) : List (List Char) :=
  groups JsText.isLowerAlphanumeric text

section rewrites
variable {p : Char → Bool} {mark : Char}

/-- A run of other characters at the start is dropped with its mark. -/
theorem dropWhile_replaceRuns (hmark : p mark = false) (text : List Char) :
    (JsText.replaceRuns (fun ch => !p ch) mark false text).dropWhile (fun ch => decide (ch = mark)) =
      JsText.replaceRuns (fun ch => !p ch) mark true text := by
  have hstart : ∀ text : List Char,
      (JsText.replaceRuns (fun ch => !p ch) mark true text).dropWhile
        (fun ch => decide (ch = mark)) = JsText.replaceRuns (fun ch => !p ch) mark true text := by
    intro text
    induction text with
    | nil => rfl
    | cons c text ih =>
      by_cases hc : p c = true
      · have hne : c ≠ mark := fun h => by simp [h, hmark] at hc
        simp [JsText.replaceRuns, hc, hne]
      · simpa [JsText.replaceRuns, hc] using ih
  cases text with
  | nil => rfl
  | cons c text =>
    by_cases hc : p c = true
    · have hne : c ≠ mark := fun h => by simp [h, hmark] at hc
      simp [JsText.replaceRuns, hc, hne]
    · simpa [JsText.replaceRuns, hc] using hstart text

/-- The runs of other characters become the marks between the groups: `unfinished` is what the
group at the start of the text goes on from. -/
theorem rdropWhile_replaceRuns (hmark : p mark = false) (text : List Char) :
    (JsText.replaceRuns (fun ch => !p ch) mark true text).rdropWhile (fun ch => decide (ch = mark)) =
        [mark].intercalate (groups p text) ∧
      ∀ unfinished ≠ [], (∀ ch ∈ unfinished, p ch = true) →
        (unfinished ++ JsText.replaceRuns (fun ch => !p ch) mark false text).rdropWhile
            (fun ch => decide (ch = mark)) =
          [mark].intercalate (groupsFrom p unfinished text) := by
  have hkept : ∀ group : List Char, (∀ ch ∈ group, p ch = true) →
      group.rdropWhile (fun ch => decide (ch = mark)) = group := by
    intro group hgroup
    refine rdropWhile_of_all fun ch hch => ?_
    have hne : ch ≠ mark := fun h => by simpa [h, hmark] using hgroup ch hch
    simp [hne]
  induction text with
  | nil =>
    refine ⟨rfl, fun unfinished hne hp => ?_⟩
    have hended : ended unfinished = [unfinished] := ended_of_ne_nil hne
    simp [JsText.replaceRuns, groupsFrom, hended, hkept unfinished hp]
  | cons c text ih =>
    by_cases hc : p c = true
    · constructor
      · have hone := ih.2 [c] (by simp) (by simpa using hc)
        simpa [JsText.replaceRuns, hc, groups, groupsFrom] using hone
      · intro unfinished hne hp
        have hmore := ih.2 (unfinished ++ [c]) (by simp) fun ch hch => by
          rcases List.mem_append.mp hch with hch | hch
          · exact hp ch hch
          · rwa [List.mem_singleton.mp hch]
        simpa [JsText.replaceRuns, hc, groupsFrom] using hmore
    · constructor
      · simpa [JsText.replaceRuns, hc, groups, groupsFrom, ended] using ih.1
      · intro unfinished hne hp
        have hread : groupsFrom p unfinished (c :: text) = unfinished :: groups p text := by
          simp [groupsFrom, hc, ended_of_ne_nil hne, groups]
        have hgrouped : Grouped p (groups p text) := grouped_groups
        have hrest : (mark :: JsText.replaceRuns (fun ch => !p ch) mark true text).rdropWhile
            (fun ch => decide (ch = mark)) =
            if groups p text = [] then [] else mark :: [mark].intercalate (groups p text) := by
          have happend := rdropWhile_append (fun ch => decide (ch = mark)) [mark]
            (JsText.replaceRuns (fun ch => !p ch) mark true text)
          rw [List.singleton_append] at happend
          rw [happend, ih.1]
          by_cases hnone : groups p text = []
          · simp [hnone, List.rdropWhile_singleton]
          · simp [hnone, joined_eq_nil hgrouped]
        rw [hread]
        simp only [JsText.replaceRuns, hc, Bool.not_false, if_true, Bool.false_eq_true, if_false]
        rw [rdropWhile_append, hrest, hkept unfinished hp]
        cases hgroups : groups p text with
        | nil => simp
        | cons next rest => simp [List.intercalate_cons_cons]

end rewrites

theorem isLowerAlphanumeric_iff {ch : Char} : JsText.isLowerAlphanumeric ch = true ↔
    (48 ≤ ch.toNat ∧ ch.toNat ≤ 57) ∨ (97 ≤ ch.toNat ∧ ch.toNat ≤ 122) := by
  simp only [JsText.isLowerAlphanumeric, Char.isDigit, Bool.or_eq_true, Bool.and_eq_true,
    decide_eq_true_eq, Char.le_def, UInt32.le_iff_toNat_le, ge_iff_le]
  rfl

theorem isAlphanum_iff {ch : Char} : ch.isAlphanum = true ↔
    (48 ≤ ch.toNat ∧ ch.toNat ≤ 57) ∨ (65 ≤ ch.toNat ∧ ch.toNat ≤ 90) ∨
      (97 ≤ ch.toNat ∧ ch.toNat ≤ 122) := by
  have hranges : ch.isAlphanum = (decide (ch.val ≥ 'A'.val ∧ ch.val ≤ 'Z'.val) ||
      (ch.val ≥ 'a'.val && ch.val ≤ 'z'.val) || (ch.val ≥ '0'.val && ch.val ≤ '9'.val)) := rfl
  simp only [hranges, Bool.or_eq_true, Bool.and_eq_true, decide_eq_true_eq,
    UInt32.le_iff_toNat_le, ge_iff_le]
  change ((65 ≤ ch.toNat ∧ ch.toNat ≤ 90) ∨ (97 ≤ ch.toNat ∧ ch.toNat ≤ 122)) ∨
    (48 ≤ ch.toNat ∧ ch.toNat ≤ 57) ↔ _
  tauto

theorem isSpace_others {ch : Char} (h : JsText.isSpace ch = true) :
    JsText.isLowerAlphanumeric ch = false := by
  rw [← Bool.not_eq_true, isLowerAlphanumeric_iff]
  simp only [JsText.isSpace, Bool.or_eq_true, Bool.and_eq_true, decide_eq_true_eq, List.mem_cons,
    List.not_mem_nil, or_false] at h
  omega

/-- Of a text in lower case the slug keeps the groups, joined with hyphens. -/
theorem slugText_toList (input : String) :
    (slugText input).toList =
      ['-'].intercalate (slugGroups (JsText.toLowerCase input).toList) := by
  have hhyphen : JsText.isLowerAlphanumeric '-' = false := by decide
  have htrim : ∀ text : String,
      groups JsText.isLowerAlphanumeric (JsText.trim text).toList = slugGroups text.toList := by
    intro text
    have hstart : slugGroups (text.toList.dropWhile JsText.isSpace) = slugGroups text.toList :=
      groups_dropWhile fun ch => isSpace_others
    have hend : slugGroups ((text.toList.dropWhile JsText.isSpace).rdropWhile JsText.isSpace) =
        slugGroups (text.toList.dropWhile JsText.isSpace) :=
      groups_rdropWhile fun ch => isSpace_others
    simpa [JsText.trim, List.rdropWhile] using hend.trans hstart
  have hends : ∀ text : String, (JsText.trimHyphens text).toList =
      (text.toList.dropWhile fun ch => decide (ch = '-')).rdropWhile
        fun ch => decide (ch = '-') := by
    intro text
    simp [JsText.trimHyphens, List.rdropWhile]
  rw [slugText, hends, JsText.othersToHyphen, String.toList_ofList,
    dropWhile_replaceRuns hhyphen, (rdropWhile_replaceRuns hhyphen _).1, htrim]

theorem toNat_toLower (ch : Char) : ch.toLower.toNat =
    if 65 ≤ ch.toNat ∧ ch.toNat ≤ 90 then ch.toNat + 32 else ch.toNat := by
  have hcond : (ch.val ≥ 'A'.val ∧ ch.val ≤ 'Z'.val) ↔ 65 ≤ ch.toNat ∧ ch.toNat ≤ 90 := by
    simp only [ge_iff_le, UInt32.le_iff_toNat_le]
    rfl
  unfold Char.toLower
  by_cases h : 65 ≤ ch.toNat ∧ ch.toNat ≤ 90
  · have hval := hcond.mpr h
    rw [dif_pos hval, if_pos h]
    change (ch.val + 32).toNat = ch.val.toNat + 32
    have hsmall : ch.val.toNat ≤ 90 := h.2
    rw [UInt32.toNat_add]
    simp
    omega
  · rw [dif_neg fun hval => h (hcond.mp hval), if_neg h]

theorem toLower_eq_self {ch : Char} (h : ¬ (65 ≤ ch.toNat ∧ ch.toNat ≤ 90)) : ch.toLower = ch := by
  have hsame := toNat_toLower ch
  rw [if_neg h] at hsame
  rw [← Char.ofNat_toNat ch.toLower, hsame, Char.ofNat_toNat]

/-- Neither the Kelvin sign nor the dotted I. -/
theorem lowerChar_plain {ch : Char} (h : ch.toNat ≠ 0x130) (h' : ch.toNat ≠ 0x212a) :
    JsText.lowerChar ch = [ch.toLower] := by
  unfold JsText.lowerChar
  split
  · contradiction
  · contradiction
  · rfl

theorem lowerChar_slug {ch : Char} (h : JsText.isLowerAlphanumeric ch = true ∨ ch = '-') :
    JsText.lowerChar ch = [ch] := by
  rcases h with h | rfl
  · have hrange := isLowerAlphanumeric_iff.mp h
    rw [lowerChar_plain (by omega) (by omega), toLower_eq_self (by omega)]
  · decide

theorem toLowerCase_toList {text : String} (f : Char → Char)
    (h : ∀ ch ∈ text.toList, JsText.lowerChar ch = [f ch]) :
    (JsText.toLowerCase text).toList = text.toList.map f := by
  rw [JsText.toLowerCase, String.toList_ofList]
  generalize text.toList = chars at h
  induction chars with
  | nil => rfl
  | cons ch chars ih =>
    rw [List.flatMap_cons, h ch List.mem_cons_self, ih fun d hd => h d (List.mem_cons_of_mem ch hd)]
    rfl

/-- A slug joins its groups, and has nothing in it that the rewrites change. -/
theorem slugText_joined {gs : List (List Char)} {slug : String}
    (hgs : Grouped JsText.isLowerAlphanumeric gs) (hslug : slug.toList = ['-'].intercalate gs) :
    slugText slug = slug := by
  have hchars : ∀ ch ∈ slug.toList, JsText.lowerChar ch = [id ch] := by
    intro ch hch
    rw [hslug] at hch
    refine lowerChar_slug ?_
    rcases mem_joined hch with hhyphen | ⟨group, hgroup, hmem⟩
    · exact .inr hhyphen
    · exact .inl ((hgs group hgroup).2 ch hmem)
  have hlower : (JsText.toLowerCase slug).toList = slug.toList := by
    rw [toLowerCase_toList id hchars, List.map_id]
  rw [← String.toList_inj, slugText_toList, hlower, hslug, slugGroups,
    groups_joined (by decide) hgs]

/-- The checks look at the rewritten text alone. -/
theorem tenantSlug_congr {a b : String} (h : slugText a = slugText b) :
    tenantSlug a = tenantSlug b := by
  simp only [slugText] at h
  simp only [tenantSlug, h]

/-- A text is refused, or passes the checks as it is. -/
theorem tenantSlug_cases (input : String) : (∃ e, tenantSlug input = .error e) ∨
    tenantSlug input = .ok (slugText input) ∧ 3 ≤ (slugText input).length ∧
      (slugText input).length ≤ 63 := by
  unfold tenantSlug slugText
  dsimp only
  generalize JsText.trimHyphens _ = text
  split
  · exact .inl ⟨_, rfl⟩
  · split
    · exact .inl ⟨_, rfl⟩
    · split
      · exact .inr ⟨rfl, by omega, by omega⟩
      · exact .inl ⟨_, rfl⟩

theorem tenantSlug_ok {input slug : String} (h : tenantSlug input = .ok slug) :
    slug = slugText input ∧ 3 ≤ slug.length ∧ slug.length ≤ 63 := by
  rcases tenantSlug_cases input with ⟨e, he⟩ | ⟨hok, hlength⟩
  · rw [he] at h
    cases h
  · have hslug : slug = slugText input := Except.ok.inj (h.symm.trans hok)
    exact ⟨hslug, hslug ▸ hlength⟩

theorem tenantSlug_idempotent {input slug : String} (h : tenantSlug input = .ok slug) :
    tenantSlug slug = .ok slug := by
  have htext := (tenantSlug_ok h).1
  have hform := slugText_toList input
  rw [← htext] at hform
  have hsame : slugText slug = slug := slugText_joined grouped_groups hform
  rw [tenantSlug_congr (hsame.trans htext), h]

theorem lowerChar_ascii {ch : Char} (h : ch.toNat < 128 ∨ JsText.isSpace ch = true) :
    JsText.lowerChar ch = [ch.toLower] := by
  rcases h with h | h
  · exact lowerChar_plain (by omega) (by omega)
  · simp only [JsText.isSpace, Bool.or_eq_true, Bool.and_eq_true, decide_eq_true_eq, List.mem_cons,
      List.not_mem_nil, or_false] at h
    exact lowerChar_plain (by omega) (by omega)

theorem isLowerAlphanumeric_toLower (ch : Char) :
    JsText.isLowerAlphanumeric ch.toLower = ch.isAlphanum := by
  rw [Bool.eq_iff_iff, isLowerAlphanumeric_iff, isAlphanum_iff, toNat_toLower]
  split <;> omega

/-- Of an ASCII text the groups in lower case are those of the text in lower case. -/
theorem slugGroups_ascii {input : String}
    (h : ∀ ch ∈ input.toList, ch.toNat < 128 ∨ JsText.isSpace ch = true) :
    slugGroups (JsText.toLowerCase input).toList = alphanumericGroups input := by
  rw [toLowerCase_toList Char.toLower fun ch hch => lowerChar_ascii (h ch hch), slugGroups,
    groups_map, alphanumericGroups]
  simp only [isLowerAlphanumeric_toLower]

theorem mapPrismaTenantToEntity_eq {record : Tenant} {input : String}
    (h : tenantSlug input = .ok record.slug) :
    mapPrismaTenantToEntity record = .ok (TenantEntity.reconstitute record) := by
  rw [mapPrismaTenantToEntity, tenantSlug_idempotent h]
  rfl

/-- Every tenant was there before or is read with the slug it has. -/
def ReadsNew (s t : Store) : Prop :=
  ∀ row ∈ t.tenants, row ∈ s.tenants ∨
    mapPrismaTenantToEntity row = .ok (TenantEntity.reconstitute row)

section create
variable {env : ServiceEnv} {s : Store}

theorem ends_requireFreeDomain {d : Nat} {domain : Option String} {R : Store → Prop} (hR : R s) :
    Effect.Ends env d s (fun _ _ s' => s' = s) R (TenantService.requireFreeDomain domain) := by
  cases domain with
  | none => exact Effect.ends_pure rfl
  | some name =>
    by_cases hname : name = ""
    · simp only [TenantService.requireFreeDomain, hname, if_true]
      exact Effect.ends_pure rfl
    · simp only [TenantService.requireFreeDomain, hname, if_false]
      exact Effect.ends_read_bind (Effect.ends_lift (fun _ _ => rfl) hR) hR

/-- A tenant is stored with the slug that its name or the given one makes. -/
theorem ends_createTenant (command : CreateTenantCommand) :
    Effect.Ends env 0 s (fun _ _ => ReadsNew s) (ReadsNew s)
      (TenantService.createTenant command) := by
  have hkept : ReadsNew s s := fun row hrow => .inl hrow
  unfold TenantService.createTenant
  refine Effect.ends_lift_bind (fun slug hslug => ?_) hkept
  refine Effect.ends_read_bind ?_ hkept
  refine Effect.ends_lift_bind (fun _ _ => ?_) hkept
  refine (ends_requireFreeDomain hkept).bind ?_
  rintro _ d₁ s₁ rfl
  refine Effect.ends_draw_bind (Effect.ends_draw_bind (Effect.ends_draw_bind ?_))
  refine Effect.Ends.bind (Q := fun _ _ => ReadsNew s₁) ?_ ?_
  · refine Effect.ends_draw_bind (Effect.ends_call (fun saved s₂ hs₂ => ?_) hkept)
    split at hs₂
    · cases hs₂
    · cases hs₂
      intro row hrow
      rcases List.mem_append.mp hrow with hrow | hrow
      · exact .inl hrow
      · rw [List.mem_singleton] at hrow
        subst hrow
        exact .inr (mapPrismaTenantToEntity_eq hslug)
  · intro saved d₂ s₂ h₂
    refine Effect.Ends.bind (Q := fun _ _ => ReadsNew s₁) (ends_auditCreate h₂ fun _ => h₂) ?_
    intro _ d₃ s₃ h₃
    refine ends_publishAll h₃ fun rows => ?_
    obtain ⟨outbox, hrows⟩ := enqueueMany_outbox (s := s₃) rows
    rw [hrows]
    exact h₃

end create

/-- A slug joins groups of lower-case letters and digits with single hyphens, has 3 to 63
characters and makes itself again, so the mapper reads the tenants that `createTenant` stores as
they are. Texts with the same groups of letters and digits, whatever their case and what is
around the groups, make the same slug. -/
theorem tenantSlug_canonical :
    (∀ input slug : String, tenantSlug input = .ok slug →
      (∃ gs : List (List Char), gs ≠ [] ∧
        (∀ group ∈ gs, group ≠ [] ∧ ∀ ch ∈ group, JsText.isLowerAlphanumeric ch = true) ∧
        slug.toList = ['-'].intercalate gs) ∧
      3 ≤ slug.length ∧ slug.length ≤ 63 ∧ tenantSlug slug = .ok slug) ∧
    (∀ (env : ServiceEnv) (faults : Nat → Fault) (s : Store) (command : CreateTenantCommand),
      ∀ row ∈ ((TenantService.createTenant command).run env faults
          (World.start s)).2.committed.tenants,
        row ∈ s.tenants ∨
          mapPrismaTenantToEntity row = .ok (TenantEntity.reconstitute row)) ∧
    ∀ a b slug slug' : String, tenantSlug a = .ok slug → tenantSlug b = .ok slug' →
      (∀ ch ∈ a.toList ++ b.toList, ch.toNat < 128 ∨ JsText.isSpace ch = true) →
      alphanumericGroups a = alphanumericGroups b → slug = slug' := by
  refine ⟨?_, ?_, ?_⟩
  · intro input slug h
    obtain ⟨htext, hmin, hmax⟩ := tenantSlug_ok h
    have hform := slugText_toList input
    rw [← htext] at hform
    refine ⟨⟨_, ?_, grouped_groups, hform⟩, hmin, hmax, tenantSlug_idempotent h⟩
    intro hnone
    have hempty : slug.toList = [] := by rw [hform, slugGroups, hnone]; rfl
    have hzero : slug.length = 0 := by rw [← String.length_toList, hempty]; rfl
    omega
  · intro env faults s command
    exact (ends_createTenant command).leaves faults
  · intro a b slug slug' ha hb hascii hsame
    have hgroups : slugGroups (JsText.toLowerCase a).toList =
        slugGroups (JsText.toLowerCase b).toList := by
      rw [slugGroups_ascii fun ch hch => hascii ch (List.mem_append_left _ hch),
        slugGroups_ascii fun ch hch => hascii ch (List.mem_append_right _ hch), hsame]
    have htext : slugText a = slugText b := by
      rw [← String.toList_inj, slugText_toList, slugText_toList, hgroups]
    rw [(tenantSlug_ok ha).1, (tenantSlug_ok hb).1, htext]

theorem tenantSlug_canonical_sample :
    tenantSlug "acme-inc" = .ok "acme-inc" ∧
      ∀ slug slug' : String, tenantSlug " Acme, Inc." = .ok slug →
        tenantSlug "acme/INC" = .ok slug' → slug = slug' := by
  have hmade : tenantSlug " Acme, Inc." = .ok "acme-inc" := by decide
  refine ⟨(tenantSlug_canonical.1 _ _ hmade).2.2.2, fun slug slug' h h' => ?_⟩
  have hplain : ((" Acme, Inc.".toList ++ "acme/INC".toList).all fun ch =>
      ch.toNat < 128 ∨ JsText.isSpace ch = true) = true := by decide
  exact tenantSlug_canonical.2.2 " Acme, Inc." "acme/INC" slug slug' h h'
    (fun ch hch => of_decide_eq_true (List.all_eq_true.mp hplain ch hch)) (by decide)

end OmniSupport.Identity
