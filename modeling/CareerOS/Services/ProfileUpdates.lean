/-
This file is the law of the updates of a search profile: a field that is given
reads back as a creation with that field stores it, a field that is not given
keeps its value, a changed plan input drops the cached plan, and the response
still takes the row. The law holds of an update exactly when the two schemas read
every given value alike, no null is given for a setting that is set or has a
default, the integers fit their columns and the workload range that results is
one.
-/

import CareerOS.Services.SearchProfiles

namespace CareerOS

namespace SearchProfiles

section

variable [LaxScalars] [SettingTables]

/-! ### What the schemas read -/

theorem map_name_profileFields : profileFields.map ProfileField.name =
    ["name", "cv_content", "role_description", "search_strategy", "location_filter",
      "workload_filter", "contract_type", "posted_within_days", "max_distance", "latitude",
      "longitude", "scrape_mode", "max_queries", "is_history", "is_stopped",
      "max_occupation_queries", "max_keyword_queries", "preferred_languages",
      "preferred_domains", "remote_only", "salary_min_chf", "workload_min", "workload_max",
      "hard_max_distance_km", "schedule_enabled", "schedule_interval_hours"] := rfl

theorem names_profileFields : (profileFields.map ProfileField.name).Nodup := by
  rw [map_name_profileFields]
  decide

variable {body data : Dict String Json} {name : String}

section

omit [LaxScalars] [SettingTables]

variable {fields : List ProfileField}

theorem keys_readUpdate (read : readUpdate body fields = some data) :
    ∀ name ∈ Dict.keys data, name ∈ fields.map ProfileField.name := by
  induction fields generalizing data with
  | nil =>
    cases read
    exact fun _ impossible => absurd impossible List.not_mem_nil
  | cons field rest inductionHypothesis =>
    unfold readUpdate at read
    split at read
    · exact fun name member => List.mem_cons_of_mem _ (inductionHypothesis read name member)
    · simp only [Option.bind_eq_bind, Option.bind_eq_some_iff, Option.pure_def,
        Option.some.injEq] at read
      obtain ⟨here, -, others, readRest, rfl⟩ := read
      intro name member
      rcases List.mem_cons.mp member with rfl | inside
      · exact List.mem_cons_self
      · exact List.mem_cons_of_mem _ (inductionHypothesis readRest name inside)

/-- An update reads the fields that are given, by its own readers. -/
theorem lookup_readUpdate (distinct : (fields.map ProfileField.name).Nodup)
    (read : readUpdate body fields = some data) :
    ∀ field ∈ fields, ∀ value, Dict.lookup field.name body = some value →
      ∃ here, field.onUpdate value = some here ∧ Dict.lookup field.name data = some here := by
  induction fields generalizing data with
  | nil => exact fun _ impossible => absurd impossible List.not_mem_nil
  | cons first rest inductionHypothesis =>
    obtain ⟨fresh, distinctRest⟩ := List.nodup_cons.mp distinct
    have others : ∀ field ∈ rest, first.name ≠ field.name :=
      fun field member same => fresh (same ▸ List.mem_map_of_mem member)
    unfold readUpdate at read
    split at read
    · rename_i absent
      intro field member value given
      rcases List.mem_cons.mp member with rfl | inside
      · rw [absent] at given
        cases given
      · exact inductionHypothesis distinctRest read field inside value given
    · rename_i firstValue given
      simp only [Option.bind_eq_bind, Option.bind_eq_some_iff, Option.pure_def,
        Option.some.injEq] at read
      obtain ⟨here, taken, data, readRest, rfl⟩ := read
      intro field member value givenHere
      rcases List.mem_cons.mp member with rfl | inside
      · rw [given] at givenHere
        obtain rfl := Option.some.inj givenHere
        exact ⟨here, taken, by rw [Dict.lookup_cons, if_pos rfl]⟩
      · obtain ⟨later, takenLater, found⟩ :=
          inductionHypothesis distinctRest readRest field inside value givenHere
        exact ⟨later, takenLater, by rw [Dict.lookup_cons, if_neg (others field inside), found]⟩

theorem lookup_readUpdate_none (read : readUpdate body fields = some data)
    (absent : Dict.lookup name body = none) : Dict.lookup name data = none := by
  induction fields generalizing data with
  | nil =>
    cases read
    rfl
  | cons first rest inductionHypothesis =>
    unfold readUpdate at read
    split at read
    · exact inductionHypothesis read
    · rename_i firstValue given
      simp only [Option.bind_eq_bind, Option.bind_eq_some_iff, Option.pure_def,
        Option.some.injEq] at read
      obtain ⟨here, -, others, readRest, rfl⟩ := read
      have different : first.name ≠ name := by
        rintro rfl
        rw [absent] at given
        cases given
      rw [Dict.lookup_cons, if_neg different, inductionHypothesis readRest]

theorem nodup_keys_readUpdate (distinct : (fields.map ProfileField.name).Nodup)
    (read : readUpdate body fields = some data) : (Dict.keys data).Nodup := by
  induction fields generalizing data with
  | nil =>
    cases read
    exact List.nodup_nil
  | cons first rest inductionHypothesis =>
    obtain ⟨fresh, distinctRest⟩ := List.nodup_cons.mp distinct
    unfold readUpdate at read
    split at read
    · exact inductionHypothesis distinctRest read
    · simp only [Option.bind_eq_bind, Option.bind_eq_some_iff, Option.pure_def,
        Option.some.injEq] at read
      obtain ⟨here, -, others, readRest, rfl⟩ := read
      exact List.nodup_cons.mpr ⟨fun again => fresh (keys_readUpdate readRest _ again),
        inductionHypothesis distinctRest readRest⟩

/-- A creation reads every field. -/
theorem readCreate_iff {body : Dict String Json} :
    (∃ data, readCreate body fields = some data) ↔
      ∀ field ∈ fields, (field.created body).isSome := by
  induction fields with
  | nil => exact ⟨fun _ _ impossible => absurd impossible List.not_mem_nil, fun _ => ⟨[], rfl⟩⟩
  | cons first rest inductionHypothesis =>
    rw [List.forall_mem_cons, ← inductionHypothesis]
    simp only [readCreate, Option.bind_eq_bind, Option.bind_eq_some_iff, Option.pure_def,
      Option.some.injEq]
    constructor
    · rintro ⟨-, here, taken, others, readRest, -⟩
      exact ⟨Option.isSome_iff_exists.mpr ⟨here, taken⟩, others, readRest⟩
    · rintro ⟨taken, others, readRest⟩
      obtain ⟨here, taken⟩ := Option.isSome_iff_exists.mp taken
      exact ⟨_, here, taken, others, readRest, rfl⟩

theorem lookup_readCreate (distinct : (fields.map ProfileField.name).Nodup)
    (read : readCreate body fields = some data) :
    Dict.keys data = fields.map ProfileField.name ∧
      ∀ field ∈ fields, Dict.lookup field.name data = field.created body := by
  induction fields generalizing data with
  | nil =>
    cases read
    exact ⟨rfl, fun _ impossible => absurd impossible List.not_mem_nil⟩
  | cons first rest inductionHypothesis =>
    obtain ⟨fresh, distinctRest⟩ := List.nodup_cons.mp distinct
    simp only [readCreate, Option.bind_eq_bind, Option.bind_eq_some_iff, Option.pure_def,
      Option.some.injEq] at read
    obtain ⟨here, taken, others, readRest, rfl⟩ := read
    obtain ⟨keys, found⟩ := inductionHypothesis distinctRest readRest
    refine ⟨congrArg (first.name :: ·) keys, fun field member => ?_⟩
    rw [Dict.lookup_cons]
    rcases List.mem_cons.mp member with rfl | inside
    · rw [if_pos rfl, taken]
    · have different : first.name ≠ field.name :=
        fun same => fresh (same ▸ List.mem_map_of_mem inside)
      rw [if_neg different, found field inside]

end

/-! ### What the readers give -/

variable {value number : Json} {value given : Json}

section

omit [SettingTables]

theorem wholeNumber_some (read : wholeNumber value = some number) :
    (value = .null ∧ number = .null) ∨ ∃ whole, number = .int whole := by
  by_cases null : value = .null
  · subst null
    exact Or.inl ⟨rfl, (Option.some.inj read).symm⟩
  · unfold wholeNumber at read
    rw [Normal.orNull_of_solid null] at read
    obtain ⟨whole, -, rfl⟩ := Option.map_eq_some_iff.mp read
    exact Or.inr ⟨whole, rfl⟩

theorem wholeNumber_int (whole : Int) : wholeNumber (.int whole) = some (.int whole) := by
  show (LaxScalars.readInt (.int whole)).map Json.int = _
  rw [LaxScalars.readInt_int]
  rfl

theorem fraction_some (read : fraction value = some number) :
    (value = .null ∧ number = .null) ∨
      ∃ text, number = .float text ∧ LaxScalars.readFloat value = some text := by
  by_cases null : value = .null
  · subst null
    exact Or.inl ⟨rfl, (Option.some.inj read).symm⟩
  · unfold fraction at read
    rw [Normal.orNull_of_solid null] at read
    obtain ⟨text, taken, rfl⟩ := Option.map_eq_some_iff.mp read
    exact Or.inr ⟨text, rfl, taken⟩

theorem flag_some (read : flag value = some given) :
    (value = .null ∧ given = .null) ∨ ∃ answer, given = .bool answer := by
  by_cases null : value = .null
  · subst null
    exact Or.inl ⟨rfl, (Option.some.inj read).symm⟩
  · unfold flag at read
    rw [Normal.orNull_of_solid null] at read
    obtain ⟨answer, -, rfl⟩ := Option.map_eq_some_iff.mp read
    exact Or.inr ⟨answer, rfl⟩

end

section

omit [LaxScalars] [SettingTables]

theorem anyText_some (read : Normal.anyText value = some given) :
    ∃ text, value = .str text ∧ given = .str text := by
  cases value with
  | str text =>
    cases read
    exact ⟨text, rfl, rfl⟩
  | null | bool _ | int _ | float _ | arr _ | obj _ => cases read

theorem optionalText_some (read : optionalText value = some given) :
    (value = .null ∧ given = .null) ∨ ∃ text, value = .str text ∧ given = .str text := by
  by_cases null : value = .null
  · subst null
    exact Or.inl ⟨rfl, (Option.some.inj read).symm⟩
  · unfold optionalText at read
    rw [Normal.orNull_of_solid null] at read
    exact Or.inr (anyText_some read)

theorem textList_some (read : Normal.orNull textList value = some given) :
    (value = .null ∧ given = .null) ∨ ∃ items, given = .arr items := by
  by_cases null : value = .null
  · subst null
    exact Or.inl ⟨rfl, (Option.some.inj read).symm⟩
  · rw [Normal.orNull_of_solid null] at read
    cases value with
    | arr values =>
      obtain ⟨items, -, rfl⟩ := Option.map_eq_some_iff.mp read
      exact Or.inr ⟨items, rfl⟩
    | null | bool _ | int _ | float _ | str _ | obj _ => cases read

/-- A normalised list is null or a list. -/
theorem normalizedList_some (normalize : Json → Option String) (value : Json) :
    normalizedList normalize value = some .null ∨
      ∃ items, normalizedList normalize value = some (.arr items) := by
  unfold normalizedList
  split
  · exact Or.inl rfl
  · exact Or.inr ⟨_, rfl⟩

end

/-- What is known of a field: what a creation reads is read again once it is stored, the schemas
agree or the creation gives less than a solid value, a preference is of its own type, and a
number that is read again is the one that was stored. -/
structure Facts (field : ProfileField) : Prop where
  again : ∀ value read, field.onCreate value = some read → (field.onCreate (stored read)).isSome
  apart : ∀ value created updated, field.onCreate value = some created →
    field.onUpdate value = some updated → created = updated ∨
      (unsetValue field.name = .null ∧ updated ≠ .null ∧ stored updated = updated ∧
        stored created = created)
  typed : field.name ∈ preferenceFields → ∀ value read,
    field.onCreate value = some read ∨ field.onUpdate value = some read →
      coercePreferenceValue field.name read = read ∧ stored read = read
  numeric : ∀ value updated number, field.onUpdate value = some updated →
    field.onCreate (stored updated) = some (.int number) → updated = .int number

omit [LaxScalars] in
theorem facts_plain {default : Json} {normal : Normal}
    (again : ∀ value read, normal value = some read → (normal (stored read)).isSome)
    (numeric : ∀ value read number, normal value = some read →
      normal (stored read) = some (.int number) → read = .int number)
    (typed : name ∈ preferenceFields → ∀ value read, normal value = some read →
      coercePreferenceValue name read = read ∧ stored read = read) :
    Facts (plain name default normal) where
  again := again
  apart := fun _ _ _ isCreated isUpdated =>
    Or.inl (Option.some.inj (isCreated.symm.trans isUpdated))
  typed := fun preference value read either => typed preference value read (either.elim id id)
  numeric := numeric

omit [LaxScalars] [SettingTables] in
theorem optionalText_numeric (value read : Json) (number : Int)
    (taken : optionalText value = some read)
    (again : optionalText (stored read) = some (.int number)) : read = .int number := by
  rcases optionalText_some taken with ⟨-, rfl⟩ | ⟨text, -, rfl⟩ <;> cases again

omit [SettingTables] in
theorem wholeNumber_numeric (value read : Json) (number : Int)
    (taken : wholeNumber value = some read)
    (again : wholeNumber (stored read) = some (.int number)) : read = .int number := by
  rcases wholeNumber_some taken with ⟨-, rfl⟩ | ⟨whole, rfl⟩
  · cases again
  · exact Option.some.inj ((wholeNumber_int whole).symm.trans again)

omit [SettingTables] in
theorem flag_numeric (value read : Json) (number : Int) (_ : flag value = some read)
    (again : flag (stored read) = some (.int number)) : read = .int number := by
  rcases flag_some again with ⟨-, impossible⟩ | ⟨answer, impossible⟩ <;> cases impossible

omit [SettingTables] in
theorem fraction_numeric (value read : Json) (number : Int) (_ : fraction value = some read)
    (again : fraction (stored read) = some (.int number)) : read = .int number := by
  rcases fraction_some again with ⟨-, impossible⟩ | ⟨text, impossible, -⟩ <;> cases impossible

omit [LaxScalars] [SettingTables] in
theorem optionalText_again (value read : Json) (taken : optionalText value = some read) :
    (optionalText (stored read)).isSome := by
  rcases optionalText_some taken with ⟨-, rfl⟩ | ⟨text, -, rfl⟩ <;> rfl

section

omit [SettingTables]

theorem wholeNumber_again (value read : Json) (taken : wholeNumber value = some read) :
    (wholeNumber (stored read)).isSome := by
  rcases wholeNumber_some taken with ⟨-, rfl⟩ | ⟨whole, rfl⟩
  · rfl
  · exact Option.isSome_iff_exists.mpr ⟨_, wholeNumber_int whole⟩

theorem flag_again (value read : Json) (taken : flag value = some read) :
    (flag (stored read)).isSome := by
  rcases flag_some taken with ⟨-, rfl⟩ | ⟨answer, rfl⟩
  · rfl
  · show ((LaxScalars.readBool (.bool answer)).map Json.bool).isSome
    rw [LaxScalars.readBool_bool]
    rfl

theorem fraction_again (value read : Json) (taken : fraction value = some read) :
    (fraction (stored read)).isSome := by
  rcases fraction_some taken with ⟨-, rfl⟩ | ⟨text, rfl, known⟩
  · rfl
  · by_cases nan : text = "nan"
    · subst nan
      rfl
    · have kept : stored (.float text) = .float text := by
        unfold stored
        split
        · rename_i same
          exact absurd (Json.float.inj same) nan
        · rfl
      rw [kept]
      show ((LaxScalars.readFloat (.float text)).map Json.float).isSome
      rw [LaxScalars.readFloat_float value text known]
      rfl

theorem limit_some (read : limit value = some number) :
    number = .null ∨ ∃ whole, number = .int whole := by
  unfold limit at read
  split at read
  · exact Or.inl (Option.some.inj read).symm
  · exact (wholeNumber_some read).imp And.right id

end

theorem facts_unsettable (unset : unsetValue name = .null)
    (typed : name ∈ preferenceFields → ∀ whole,
      coercePreferenceValue name (.int whole) = .int whole) : Facts (unsettable name) where
  again := by
    intro value read taken
    rcases limit_some taken with rfl | ⟨whole, rfl⟩
    · rfl
    · show (limit (.int whole)).isSome
      unfold limit
      split
      · rfl
      · rw [wholeNumber_int]
        rfl
  apart := by
    intro value created updated isCreated isUpdated
    replace isCreated : limit value = some created := isCreated
    replace isUpdated : wholeNumber value = some updated := isUpdated
    unfold limit at isCreated
    split at isCreated
    · rename_i spelled
      obtain rfl := Option.some.inj isCreated
      rcases wholeNumber_some isUpdated with ⟨rfl, -⟩ | ⟨whole, rfl⟩
      · exact absurd spelled (by decide)
      · exact Or.inr ⟨unset, nofun, rfl, rfl⟩
    · exact Or.inl (Option.some.inj (isCreated.symm.trans isUpdated))
  typed := by
    intro preference value read either
    have number : read = .null ∨ ∃ whole, read = .int whole := by
      rcases either with isCreated | isUpdated
      · exact limit_some isCreated
      · exact (wholeNumber_some isUpdated).imp And.right id
    rcases number with rfl | ⟨whole, rfl⟩
    · exact ⟨rfl, rfl⟩
    · exact ⟨typed preference whole, rfl⟩
  numeric := by
    intro value updated number isUpdated isAgain
    rcases wholeNumber_some isUpdated with ⟨-, rfl⟩ | ⟨whole, rfl⟩
    · cases isAgain
    · replace isAgain : limit (.int whole) = some (.int number) := isAgain
      unfold limit at isAgain
      split at isAgain
      · cases isAgain
      · exact Option.some.inj ((wholeNumber_int whole).symm.trans isAgain)

omit [LaxScalars] in
theorem facts_normalized {normalize : Json → Option String} (unset : unsetValue name = .null)
    (typed : ∀ items, coercePreferenceValue name (.arr items) = .arr items) :
    Facts (normalized name normalize) where
  again := by
    intro value read _
    rcases normalizedList_some normalize (stored read) with null | ⟨items, list⟩
    · exact Option.isSome_iff_exists.mpr ⟨_, null⟩
    · exact Option.isSome_iff_exists.mpr ⟨_, list⟩
  apart := by
    intro value created updated isCreated isUpdated
    rcases textList_some isUpdated with ⟨rfl, rfl⟩ | ⟨items, rfl⟩
    · exact Or.inl (Option.some.inj isCreated).symm
    · refine Or.inr ⟨unset, nofun, rfl, ?_⟩
      rcases normalizedList_some normalize value with null | ⟨texts, list⟩
      · rw [← Option.some.inj (null.symm.trans isCreated)]
        rfl
      · rw [← Option.some.inj (list.symm.trans isCreated)]
        rfl
  typed := by
    intro _ value read either
    have list : read = .null ∨ ∃ items, read = .arr items := by
      rcases either with isCreated | isUpdated
      · rcases normalizedList_some normalize value with null | ⟨items, found⟩
        · exact Or.inl (Option.some.inj (null.symm.trans isCreated)).symm
        · exact Or.inr ⟨items, (Option.some.inj (found.symm.trans isCreated)).symm⟩
      · exact (textList_some isUpdated).imp And.right id
    rcases list with rfl | ⟨items, rfl⟩
    · exact ⟨rfl, rfl⟩
    · exact ⟨typed items, rfl⟩
  numeric := by
    intro value updated number _ isAgain
    rcases normalizedList_some normalize (stored updated) with null | ⟨items, list⟩
    · cases null.symm.trans isAgain
    · cases list.symm.trans isAgain

omit [LaxScalars] in
theorem facts_name : Facts ⟨"name", .str "", Normal.anyText, optionalText⟩ where
  again := by
    intro value read taken
    obtain ⟨text, -, rfl⟩ := anyText_some taken
    rfl
  apart := by
    intro value created updated isCreated isUpdated
    obtain ⟨text, rfl, rfl⟩ := anyText_some isCreated
    exact Or.inl (Option.some.inj isUpdated)
  typed := fun preference => absurd preference (by decide)
  numeric := by
    intro value updated number isUpdated isAgain
    obtain ⟨text, -, impossible⟩ := anyText_some isAgain
    cases impossible

omit [SettingTables] in
theorem positive_some (read : positive value = some number) :
    (value = .null ∧ number = .null) ∨ ∃ whole, number = .int whole ∧ 1 ≤ whole ∧
      LaxScalars.readInt value = some whole := by
  by_cases null : value = .null
  · subst null
    exact Or.inl ⟨rfl, (Option.some.inj read).symm⟩
  · unfold positive at read
    rw [Normal.orNull_of_solid null] at read
    unfold Normal.integer at read
    split at read
    · rename_i whole known
      split at read
      · rename_i bounded
        exact Or.inr ⟨whole, (Option.some.inj read).symm, bounded.1, known⟩
      · cases read
    · cases read

theorem facts_schedule :
    Facts ⟨"schedule_interval_hours", .int 24, positive, wholeNumber⟩ where
  again := by
    intro value read taken
    rcases positive_some taken with ⟨-, rfl⟩ | ⟨whole, rfl, least, -⟩
    · rfl
    · show (Normal.integer 1 none (.int whole)).isSome
      unfold Normal.integer
      rw [LaxScalars.readInt_int]
      dsimp only
      rw [if_pos ⟨least, nofun⟩]
      rfl
  apart := by
    intro value created updated isCreated isUpdated
    rcases positive_some isCreated with ⟨rfl, rfl⟩ | ⟨whole, rfl, -, known⟩
    · exact Or.inl (Option.some.inj isUpdated)
    · have solid : value ≠ .null := by
        rintro rfl
        cases isCreated
      replace isUpdated : wholeNumber value = some updated := isUpdated
      unfold wholeNumber at isUpdated
      rw [Normal.orNull_of_solid solid, known] at isUpdated
      exact Or.inl (Option.some.inj isUpdated)
  typed := fun preference => absurd preference
    (show "schedule_interval_hours" ∉ preferenceFields by decide)
  numeric := by
    intro value updated number isUpdated isAgain
    rcases wholeNumber_some isUpdated with ⟨-, rfl⟩ | ⟨whole, rfl⟩
    · cases isAgain
    · replace isAgain : positive (.int whole) = some (.int number) := isAgain
      rcases positive_some isAgain with ⟨impossible, -⟩ | ⟨again, same, -, known⟩
      · cases impossible
      · rw [LaxScalars.readInt_int] at known
        rw [Option.some.inj known, ← same]

theorem facts : ∀ field ∈ profileFields, Facts field := by
  have text : ∀ {name : String} {default : Json}, name ∉ preferenceFields →
      Facts (plain name default optionalText) := fun outside =>
    facts_plain optionalText_again optionalText_numeric fun preference => absurd preference outside
  have number : ∀ {name : String} {default : Json}, name ∉ preferenceFields →
      Facts (plain name default wholeNumber) := fun outside =>
    facts_plain wholeNumber_again wholeNumber_numeric fun preference => absurd preference outside
  have coordinate : ∀ {name : String} {default : Json}, name ∉ preferenceFields →
      Facts (plain name default fraction) := fun outside =>
    facts_plain fraction_again fraction_numeric fun preference => absurd preference outside
  have switch : ∀ {name : String} {default : Json}, name ∉ preferenceFields →
      Facts (plain name default flag) := fun outside =>
    facts_plain flag_again flag_numeric fun preference => absurd preference outside
  have remote : Facts (plain "remote_only" (.bool false) flag) := by
    refine facts_plain flag_again flag_numeric fun _ value read taken => ?_
    rcases flag_some taken with ⟨-, rfl⟩ | ⟨answer, rfl⟩ <;> exact ⟨rfl, rfl⟩
  have queries : ∀ {name : String}, unsetValue name = .null → name ∉ preferenceFields →
      Facts (unsettable name) := fun unset outside =>
    facts_unsettable unset fun preference => absurd preference outside
  have bound : ∀ {name : String}, unsetValue name = .null →
      (∀ whole, coercePreferenceValue name (.int whole) = .int whole) →
        Facts (unsettable name) := fun unset typed => facts_unsettable unset fun _ => typed
  simp only [profileFields, List.forall_mem_cons]
  exact ⟨facts_name, text (by decide), text (by decide), text (by decide), text (by decide),
    text (by decide), text (by decide), number (by decide), number (by decide),
    coordinate (by decide), coordinate (by decide), text (by decide), queries rfl (by decide),
    switch (by decide), switch (by decide), queries rfl (by decide), queries rfl (by decide),
    facts_normalized rfl fun _ => rfl, facts_normalized rfl fun _ => rfl, remote,
    bound rfl fun _ => rfl, bound rfl fun _ => rfl, bound rfl fun _ => rfl,
    bound rfl fun _ => rfl, switch (by decide), facts_schedule,
    fun _ impossible => absurd impossible List.not_mem_nil⟩

/-! ### Where the data goes -/

omit [LaxScalars] [SettingTables] in
theorem lookup_columnData (isColumn : name ∉ preferenceFields)
    (data : Dict String Json) : Dict.lookup name (columnData data) = Dict.lookup name data :=
  (Dict.lookup_filter_key (fun key => decide (key ∉ preferenceFields)) name data).trans
    (if_pos (decide_eq_true isColumn))

omit [LaxScalars] in
theorem lookup_extractedPreferences (isPreference : name ∈ preferenceFields)
    (data : Dict String Json) : Dict.lookup name (extractedPreferences data) =
      (Dict.lookup name data).map (coercePreferenceValue name) := by
  unfold extractedPreferences
  induction data with
  | nil => rfl
  | cons item rest inductionHypothesis =>
    rw [List.filter_cons]
    by_cases same : item.1 = name
    · rw [if_pos (decide_eq_true (same ▸ isPreference)), List.map_cons, Dict.lookup_cons,
        Dict.lookup_cons, if_pos same, if_pos same, same]
      rfl
    · split
      · rw [List.map_cons, Dict.lookup_cons, Dict.lookup_cons, if_neg same, if_neg same,
          inductionHypothesis]
      · rw [Dict.lookup_cons, if_neg same, inductionHypothesis]

variable {data : Dict String Json}

omit [LaxScalars] in
theorem nodup_keys_extractedPreferences
    (distinct : (Dict.keys data).Nodup) : (Dict.keys (extractedPreferences data)).Nodup := by
  unfold extractedPreferences Dict.keys
  rw [List.map_map]
  exact distinct.sublist (List.filter_sublist.map Prod.fst)

/-- No entry of the preferences is null. -/
def Solid (preferences : Dict String Json) : Prop := ∀ item ∈ preferences, item.2 ≠ .null

variable {value : Json}

section

omit [LaxScalars] [SettingTables]

theorem solid_mergedPreferences (existing extracted : Dict String Json) :
    Solid (mergedPreferences existing extracted) :=
  fun _ member => of_decide_eq_true (List.mem_filter.mp member).2

theorem solid_assign {base : Dict String Json} (solid : Solid base) (name : String)
    (given : value ≠ .null) : Solid (Dict.assign name value base) := by
  induction base with
  | nil =>
    intro item member
    rw [List.mem_singleton.mp member]
    exact given
  | cons first rest inductionHypothesis =>
    have here := solid first List.mem_cons_self
    have later : Solid rest := fun item member => solid item (List.mem_cons_of_mem _ member)
    unfold Dict.assign
    split
    · intro item member
      rcases List.mem_cons.mp member with rfl | inside
      · exact given
      · exact later item inside
    · intro item member
      rcases List.mem_cons.mp member with rfl | inside
      · exact here
      · exact inductionHypothesis later item inside

theorem lookup_solidPart (distinct : (Dict.keys data).Nodup)
    (name : String) : Dict.lookup name (data.filter fun item => item.2 ≠ .null) =
      (Dict.lookup name data).filter fun value => value ≠ .null := by
  induction data with
  | nil => rfl
  | cons item rest inductionHypothesis =>
    obtain ⟨fresh, distinctRest⟩ := List.nodup_cons.mp distinct
    rw [List.filter_cons, Dict.lookup_cons]
    by_cases same : item.1 = name
    · have absent : Dict.lookup name rest = none := by
        by_contra present
        obtain ⟨value, there⟩ := Option.ne_none_iff_exists'.mp present
        exact fresh (same ▸ (Dict.mem_keys_iff _ _).mpr ⟨value, there⟩)
      rw [if_pos same]
      by_cases null : item.2 = .null
      · rw [if_neg (by simp [null]), inductionHypothesis distinctRest, absent, null]
        rfl
      · rw [if_pos (decide_eq_true null), Dict.lookup_cons, if_pos same, Option.filter_some,
          if_pos (decide_eq_true null)]
    · rw [if_neg same, ← inductionHypothesis distinctRest]
      split
      · rw [Dict.lookup_cons, if_neg same]
      · rfl

/-- What is merged into solid preferences overwrites them. -/
theorem lookup_mergedPreferences {existing extracted : Dict String Json} (solid : Solid existing)
    (distinct : (Dict.keys extracted).Nodup) (name : String) :
    Dict.lookup name (mergedPreferences existing extracted) =
      ((Dict.lookup name extracted).filter fun value => value ≠ .null).or
        (Dict.lookup name existing) := by
  have merged : ∀ added : Dict String Json, (Dict.keys added).Nodup → Solid added →
      ∀ base, Solid base →
        Solid (added.foldl (fun base item => Dict.assign item.1 item.2 base) base) ∧
        Dict.lookup name (added.foldl (fun base item => Dict.assign item.1 item.2 base) base) =
          (Dict.lookup name added).or (Dict.lookup name base) := by
    intro added
    induction added with
    | nil => exact fun _ _ base solidBase => ⟨solidBase, rfl⟩
    | cons item rest inductionHypothesis =>
      intro distinctAdded solidAdded base solidBase
      obtain ⟨fresh, distinctRest⟩ := List.nodup_cons.mp distinctAdded
      obtain ⟨stays, found⟩ := inductionHypothesis distinctRest
        (fun other member => solidAdded other (List.mem_cons_of_mem _ member))
        (Dict.assign item.1 item.2 base)
        (solid_assign solidBase _ (solidAdded item List.mem_cons_self))
      refine ⟨stays, found.trans ?_⟩
      rw [Dict.lookup_cons]
      by_cases same : item.1 = name
      · have absent : Dict.lookup name rest = none := by
          by_contra present
          obtain ⟨value, there⟩ := Option.ne_none_iff_exists'.mp present
          exact fresh (same ▸ (Dict.mem_keys_iff _ _).mpr ⟨value, there⟩)
        rw [if_pos same, absent, ← same, Dict.lookup_assign_self]
        rfl
      · rw [if_neg same, Dict.lookup_assign_of_ne (Ne.symm same)]
  have solidAdded : Solid (extracted.filter fun item => item.2 ≠ .null) :=
    fun _ member => of_decide_eq_true (List.mem_filter.mp member).2
  obtain ⟨stays, found⟩ := merged _
    (distinct.sublist (List.filter_sublist.map Prod.fst)) solidAdded existing solid
  have kept : mergedPreferences existing extracted =
      (extracted.filter fun item => item.2 ≠ .null).foldl
        (fun base item => Dict.assign item.1 item.2 base) existing :=
    List.filter_eq_self.mpr fun item member => decide_eq_true (stays item member)
  rw [kept, found, lookup_solidPart distinct]

end

/-! ### What is read back -/

/-- Data whose preferences are of their own types. -/
def Typed (data : Dict String Json) : Prop :=
  ∀ name ∈ preferenceFields, ∀ value, Dict.lookup name data = some value →
    coercePreferenceValue name value = value ∧ stored value = value

variable {profile : SearchProfile}

section

omit [LaxScalars]

/-- The preferences after a merge, one by one. -/
theorem lookup_merged {data existing : Dict String Json} (solid : Solid existing)
    (distinct : (Dict.keys data).Nodup) (typed : Typed data)
    (isPreference : name ∈ preferenceFields) :
    Dict.lookup name (mergedPreferences existing (extractedPreferences data)) =
      ((Dict.lookup name data).filter fun value => value ≠ .null).or
        (Dict.lookup name existing) := by
  rw [lookup_mergedPreferences solid (nodup_keys_extractedPreferences distinct),
    lookup_extractedPreferences isPreference]
  cases given : Dict.lookup name data with
  | none => rfl
  | some value => rw [Option.map_some, (typed name isPreference value given).1]

/-- A setting that the data does not have, or has as null of a preference, is as it was. -/
theorem read_updatedProfile_kept
    (solid : Solid profile.advancedPreferences) (distinct : (Dict.keys data).Nodup)
    (typed : Typed data) (kept : Dict.lookup name data = none ∨
      (name ∈ preferenceFields ∧ Dict.lookup name data = some .null)) :
    (updatedProfile profile data).read name = profile.read name := by
  unfold SearchProfile.read
  split
  · rename_i isPreference
    have nothing : (Dict.lookup name data).filter (fun value => value ≠ .null) = none := by
      rcases kept with absent | ⟨-, null⟩
      · rw [absent]
        rfl
      · rw [null]
        rfl
    have merged := lookup_merged solid distinct typed isPreference
    rw [nothing, Option.none_or] at merged
    show (Dict.lookup name (if mergedPreferences _ _ = [] then _ else _)).getD _ = _
    split
    · rfl
    · rw [merged]
  · rename_i isColumn
    have absent : Dict.lookup name data = none :=
      kept.elim id fun preference => absurd preference.1 isColumn
    simp only [updatedProfile, lookup_columnData isColumn, absent]

/-- Any other setting of the data is stored. -/
theorem read_updatedProfile_given
    (solid : Solid profile.advancedPreferences) (distinct : (Dict.keys data).Nodup)
    (typed : Typed data) (given : Dict.lookup name data = some value)
    (counts : name ∈ preferenceFields → value ≠ .null) :
    (updatedProfile profile data).read name = stored value := by
  unfold SearchProfile.read
  split
  · rename_i isPreference
    have merged := lookup_merged solid distinct typed isPreference
    rw [given, Option.filter_some, if_pos (decide_eq_true (counts isPreference)),
      Option.some_or] at merged
    show (Dict.lookup name (if mergedPreferences _ _ = [] then _ else _)).getD _ = _
    split
    · rename_i empty
      rw [empty] at merged
      cases merged
    · rw [merged, (typed name isPreference value given).2]
      rfl
  · rename_i isColumn
    simp only [updatedProfile, lookup_columnData isColumn, given]

/-- A new profile has its data, and what was never set where that is null. -/
theorem read_insertedProfile (distinct : (Dict.keys data).Nodup)
    (typed : Typed data) (given : Dict.lookup name data = some value) :
    (insertedProfile data).read name = if value = .null then unsetValue name else stored value := by
  unfold SearchProfile.read
  split
  · rename_i isPreference
    have solid : Solid [] := fun _ impossible => absurd impossible List.not_mem_nil
    have merged := lookup_merged solid distinct typed isPreference
    show (Dict.lookup name (mergedPreferences [] (extractedPreferences data))).getD _ = _
    rw [merged, given, Option.filter_some]
    by_cases null : value = .null
    · rw [if_pos null, null]
      rfl
    · rw [if_pos (decide_eq_true null), if_neg null, (typed name isPreference value given).2]
      rfl
  · rename_i isColumn
    show insertedValue (columnData data) name = _
    unfold insertedValue
    rw [lookup_columnData isColumn, given]
    by_cases null : value = .null
    · rw [if_pos null, null]
    · rw [if_neg null]
      split
      · rename_i impossible
        cases impossible
      · rename_i impossible
        exact absurd (Option.some.inj impossible) null
      · rename_i same
        rw [Option.some.inj same]

end

/-! ### The schemas field by field -/

theorem eq_of_name {field other : ProfileField} (member : field ∈ profileFields)
    (isOther : other ∈ profileFields) (same : field.name = other.name) : field = other :=
  List.inj_on_of_nodup_map names_profileFields member isOther same

/-- The bounds of the number of one field. -/
def inRange (name : String) (number : Int) : Prop :=
  (name ∈ ["workload_min", "workload_max"] → 0 ≤ number ∧ number ≤ 100) ∧
    (name ∈ ["salary_min_chf", "hard_max_distance_km", "max_distance"] → 0 ≤ number) ∧
    (name ∈ ["posted_within_days", "schedule_interval_hours"] → 1 ≤ number)

instance (name : String) (number : Int) : Decidable (inRange name number) := by
  unfold inRange
  infer_instance

omit [LaxScalars] [SettingTables] in
/-- The ranges are bounds of single fields and the order of the two workloads. -/
theorem validProfileRanges_iff : validProfileRanges data ↔
    (∀ name, ∀ number ∈ numberOf name data, inRange name number) ∧
      ∀ least ∈ numberOf "workload_min" data, ∀ most ∈ numberOf "workload_max" data,
        least ≤ most := by
  unfold validProfileRanges inRange
  constructor
  · rintro ⟨lower, upper, ordered, salary, hard, distance, posted, interval⟩
    refine ⟨fun name number found => ⟨?_, ?_, ?_⟩, ordered⟩
    · intro member
      rcases List.mem_cons.mp member with rfl | later
      · exact lower number found
      · obtain rfl := List.mem_singleton.mp later
        exact upper number found
    · intro member
      rcases List.mem_cons.mp member with rfl | later
      · exact salary number found
      · rcases List.mem_cons.mp later with rfl | last
        · exact hard number found
        · obtain rfl := List.mem_singleton.mp last
          exact distance number found
    · intro member
      rcases List.mem_cons.mp member with rfl | later
      · exact posted number found
      · obtain rfl := List.mem_singleton.mp later
        exact interval number found
  · rintro ⟨bounds, ordered⟩
    exact ⟨fun number found => (bounds _ number found).1 (by decide),
      fun number found => (bounds _ number found).1 (by decide), ordered,
      fun number found => (bounds _ number found).2.1 (by decide),
      fun number found => (bounds _ number found).2.1 (by decide),
      fun number found => (bounds _ number found).2.1 (by decide),
      fun number found => (bounds _ number found).2.2 (by decide),
      fun number found => (bounds _ number found).2.2 (by decide)⟩

/-- What is known of a default: it passes the checks of its field, and one of a preference is of
its own type. -/
structure DefaultFacts (name : String) (default : Json) : Prop where
  bounded : ∀ number ∈ asNumber default, inRange name number
  unset : name ∈ ["workload_min", "workload_max"] → default = .null
  fits : fitsColumn default = true
  typed : name ∈ preferenceFields → coercePreferenceValue name default = default ∧
    stored default = default

theorem defaultFacts : ∀ field ∈ profileFields, DefaultFacts field.name field.default := by
  have column : ∀ {name : String} {default : Json},
      (∀ number ∈ asNumber default, inRange name number) → fitsColumn default = true →
        name ∉ ["workload_min", "workload_max"] → name ∉ preferenceFields →
          DefaultFacts name default :=
    fun bounded fits noWorkload outside => ⟨bounded, fun workload => absurd workload noWorkload,
      fits, fun preference => absurd preference outside⟩
  have null : ∀ {name : String}, DefaultFacts name .null :=
    fun {name} => ⟨nofun, fun _ => rfl, rfl, fun _ => ⟨rfl, rfl⟩⟩
  simp only [profileFields, List.forall_mem_cons, plain, unsettable, normalized]
  refine ⟨column ?_ rfl ?_ ?_, null, null, null, null, null, column ?_ rfl ?_ ?_,
    column ?_ rfl ?_ ?_, column ?_ rfl ?_ ?_, null, null, column ?_ rfl ?_ ?_, null,
    column ?_ rfl ?_ ?_, column ?_ rfl ?_ ?_, null, null, null, null,
    ⟨?_, ?_, rfl, fun _ => ⟨rfl, rfl⟩⟩, null, null, null, null, column ?_ rfl ?_ ?_,
    column ?_ rfl ?_ ?_, fun _ impossible => absurd impossible List.not_mem_nil⟩
  all_goals decide

/-- What is known of the data of an accepted update. -/
structure ReadsUpdate (body data : Dict String Json) : Prop where
  given : ∀ field ∈ profileFields, ∀ value, Dict.lookup field.name body = some value →
    ∃ here, field.onUpdate value = some here ∧ Dict.lookup field.name data = some here
  absent : ∀ name, Dict.lookup name body = none → Dict.lookup name data = none
  named : ∀ name here, Dict.lookup name data = some here →
    ∃ field ∈ profileFields, field.name = name ∧ ∃ value, Dict.lookup name body = some value ∧
      field.onUpdate value = some here
  distinct : (Dict.keys data).Nodup
  typed : Typed data
  ranges : validProfileRanges data

theorem searchProfileUpdate_some
    (accepted : searchProfileUpdate body = some data) : ReadsUpdate body data := by
  obtain ⟨read, ranges⟩ := Option.filter_eq_some_iff.mp accepted
  have given := lookup_readUpdate names_profileFields read
  have absent : ∀ name, Dict.lookup name body = none → Dict.lookup name data = none :=
    fun name none => lookup_readUpdate_none read none
  have named : ∀ name here, Dict.lookup name data = some here →
      ∃ field ∈ profileFields, field.name = name ∧ ∃ value, Dict.lookup name body = some value ∧
        field.onUpdate value = some here := by
    intro name here found
    obtain ⟨field, member, rfl⟩ := List.mem_map.mp
      (keys_readUpdate read name ((Dict.mem_keys_iff _ _).mpr ⟨here, found⟩))
    cases inBody : Dict.lookup field.name body with
    | none =>
      rw [absent _ inBody] at found
      cases found
    | some value =>
      obtain ⟨other, taken, same⟩ := given field member value inBody
      rw [same] at found
      obtain rfl := Option.some.inj found
      exact ⟨field, member, rfl, value, rfl, taken⟩
  refine ⟨given, absent, named, nodup_keys_readUpdate names_profileFields read, ?_,
    of_decide_eq_true ranges⟩
  intro name preference here found
  obtain ⟨field, member, rfl, value, -, taken⟩ := named name here found
  exact (facts field member).typed preference value here (Or.inr taken)

/-- What is known of the data of an accepted creation. -/
structure ReadsCreate (body data : Dict String Json) : Prop where
  fields : ∀ field ∈ profileFields, ∃ here, field.created body = some here ∧
    Dict.lookup field.name data = some here
  named : ∀ name here, Dict.lookup name data = some here →
    ∃ field ∈ profileFields, field.name = name ∧ field.created body = some here
  distinct : (Dict.keys data).Nodup
  typed : Typed data

theorem readCreate_some
    (read : readCreate body profileFields = some data) : ReadsCreate body data := by
  obtain ⟨keys, found⟩ := lookup_readCreate names_profileFields read
  have taken := readCreate_iff.mp ⟨data, read⟩
  have named : ∀ name here, Dict.lookup name data = some here →
      ∃ field ∈ profileFields, field.name = name ∧ field.created body = some here := by
    intro name here isHere
    have member := (Dict.mem_keys_iff name data).mpr ⟨here, isHere⟩
    rw [keys] at member
    obtain ⟨field, isField, rfl⟩ := List.mem_map.mp member
    exact ⟨field, isField, rfl, (found field isField).symm.trans isHere⟩
  refine ⟨fun field member => ?_, named, keys ▸ names_profileFields, ?_⟩
  · obtain ⟨here, isHere⟩ := Option.isSome_iff_exists.mp (taken field member)
    exact ⟨here, isHere, (found field member).trans isHere⟩
  · intro name preference here isHere
    obtain ⟨field, member, rfl, created⟩ := named name here isHere
    unfold ProfileField.created at created
    split at created
    · obtain rfl := Option.some.inj created
      exact (defaultFacts field member).typed preference
    · exact (facts field member).typed preference _ here (Or.inl created)

/-! ### The response -/

/-- What the response reads of a field. -/
def responded (profile : SearchProfile) (field : ProfileField) : Option Json :=
  field.onCreate (profile.read field.name)

theorem created_attributes (profile : SearchProfile) {field : ProfileField}
    (member : field ∈ profileFields) :
    field.created (attributes profile) = responded profile field := by
  have found : Dict.lookup field.name (attributes profile) = some (profile.read field.name) := by
    have renamed : attributes profile = (profileFields.map ProfileField.name).map
        fun name => (name, profile.read name) := by
      rw [List.map_map]
      rfl
    rw [renamed]
    exact Dict.lookup_map_of_mem (List.mem_map_of_mem member) _
  unfold ProfileField.created
  rw [found]
  rfl

theorem mem_workloads : unsettable "workload_min" ∈ profileFields ∧
    unsettable "workload_max" ∈ profileFields := by
  unfold profileFields
  constructor <;> simp only [List.mem_cons, true_or, or_true]

/-- The response takes a row field by field, where the two workloads are in order. -/
theorem responseAccepts_iff : responseAccepts profile = true ↔
    (∀ field ∈ profileFields, (responded profile field).isSome) ∧
      (∀ field ∈ profileFields, ∀ number ∈ (responded profile field).bind asNumber,
        inRange field.name number) ∧
      ∀ least ∈ (responded profile (unsettable "workload_min")).bind asNumber,
        ∀ most ∈ (responded profile (unsettable "workload_max")).bind asNumber, least ≤ most := by
  have numbers : ∀ data, readCreate (attributes profile) profileFields = some data →
      ∀ field ∈ profileFields, numberOf field.name data =
        (responded profile field).bind asNumber := by
    intro data read field member
    obtain ⟨here, created, found⟩ := (readCreate_some read).fields field member
    unfold numberOf
    rw [found, ← created_attributes profile member, created]
  unfold responseAccepts searchProfileCreate
  rw [Option.isSome_iff_exists]
  simp only [Option.filter_eq_some_iff, decide_eq_true_eq]
  constructor
  · rintro ⟨data, read, ranges⟩
    obtain ⟨bounds, ordered⟩ := validProfileRanges_iff.mp ranges
    refine ⟨fun field member => ?_, fun field member number found => ?_, ?_⟩
    · rw [← created_attributes profile member]
      exact readCreate_iff.mp ⟨data, read⟩ field member
    · exact bounds field.name number ((numbers data read field member).symm ▸ found)
    · rw [← numbers data read _ mem_workloads.1, ← numbers data read _ mem_workloads.2]
      exact ordered
  · rintro ⟨taken, bounds, ordered⟩
    obtain ⟨data, read⟩ := readCreate_iff.mpr fun field member =>
      (created_attributes profile member).symm ▸ taken field member
    refine ⟨data, read, validProfileRanges_iff.mpr ⟨fun name number found => ?_, ?_⟩⟩
    · obtain ⟨here, isHere, isNumber⟩ := Option.bind_eq_some_iff.mp found
      obtain ⟨field, member, rfl, -⟩ := (readCreate_some read).named name here isHere
      exact bounds field member number ((numbers data read field member) ▸ found)
    · rw [← numbers data read _ mem_workloads.1, ← numbers data read _ mem_workloads.2] at ordered
      exact ordered

/-! ### A creation with one field -/

theorem created_single {field : ProfileField} (member : field ∈ profileFields) (value : Json)
    {other : ProfileField} (isOther : other ∈ profileFields) :
    other.created [(field.name, value)] =
      if other.name = field.name then field.onCreate value else some other.default := by
  unfold ProfileField.created
  rw [Dict.lookup_cons, Dict.lookup_nil]
  by_cases same : field.name = other.name
  · obtain rfl := eq_of_name member isOther same
    rw [if_pos rfl, if_pos rfl]
  · rw [if_neg same, if_neg (Ne.symm same)]

/-- What a creation with one field reads back of it. -/
theorem createProfile_single {field : ProfileField} (member : field ∈ profileFields)
    {created : SearchProfile} (made : createProfile [(field.name, value)] = .ok created) :
    ∃ here, field.onCreate value = some here ∧
      created.read field.name = if here = .null then unsetValue field.name else stored here := by
  unfold createProfile at made
  split at made
  · cases made
  · rename_i data accepted
    split at made
    · obtain rfl := Except.ok.inj made
      have reads := readCreate_some (Option.filter_eq_some_iff.mp accepted).1
      obtain ⟨here, taken, found⟩ := reads.fields field member
      rw [created_single member value member, if_pos rfl] at taken
      exact ⟨here, taken, read_insertedProfile reads.distinct reads.typed found⟩
    · cases made

/-- A value that is in its range and fits its column can be created. -/
theorem createProfile_single_of {field : ProfileField} (member : field ∈ profileFields)
    {value here : Json} (taken : field.onCreate value = some here)
    (bounded : ∀ number ∈ asNumber here, inRange field.name number)
    (fits : field.name ∉ preferenceFields → fitsColumn here = true) :
    ∃ created, createProfile [(field.name, value)] = .ok created := by
  have all : ∀ other ∈ profileFields, (other.created [(field.name, value)]).isSome := by
    intro other isOther
    rw [created_single member value isOther]
    split
    · rw [taken]
      rfl
    · rfl
  obtain ⟨data, read⟩ := readCreate_iff.mpr all
  have reads := readCreate_some read
  have inData : ∀ name given, Dict.lookup name data = some given →
      (name = field.name ∧ given = here) ∨ DefaultFacts name given := by
    intro name given found
    obtain ⟨other, isOther, rfl, created⟩ := reads.named name given found
    rw [created_single member value isOther] at created
    split at created
    · rename_i same
      exact Or.inl ⟨same, Option.some.inj (created.symm.trans taken)⟩
    · obtain rfl := Option.some.inj created
      exact Or.inr (defaultFacts other isOther)
  have ranges : validProfileRanges data := by
    refine validProfileRanges_iff.mpr ⟨fun name number found => ?_, ?_⟩
    · obtain ⟨given, isGiven, isNumber⟩ := Option.bind_eq_some_iff.mp found
      rcases inData name given isGiven with ⟨rfl, rfl⟩ | default
      · exact bounded number isNumber
      · exact default.bounded number isNumber
    · intro least isLeast most isMost
      obtain ⟨lower, isLower, lowerNumber⟩ := Option.bind_eq_some_iff.mp isLeast
      obtain ⟨upper, isUpper, upperNumber⟩ := Option.bind_eq_some_iff.mp isMost
      rcases inData _ lower isLower with ⟨isMin, -⟩ | default
      · rcases inData _ upper isUpper with ⟨isMax, -⟩ | default
        · exact absurd (isMin.trans isMax.symm) (by decide)
        · rw [default.unset (by decide)] at upperNumber
          cases upperNumber
      · rw [default.unset (by decide)] at lowerNumber
        cases lowerNumber
  have accepted : searchProfileCreate [(field.name, value)] = some data :=
    Option.filter_eq_some_iff.mpr ⟨read, decide_eq_true ranges⟩
  have allFit : ((columnData data).all fun item => fitsColumn item.2) = true := by
    rw [List.all_eq_true]
    intro item inColumns
    obtain ⟨inside, outside⟩ := List.mem_filter.mp inColumns
    have isColumn := of_decide_eq_true outside
    have found := (Dict.mem_iff_lookup reads.distinct item.1 item.2).mp inside
    rcases inData item.1 item.2 found with ⟨same, isHere⟩ | default
    · rw [isHere]
      exact fits (same ▸ isColumn)
    · exact default.fits
  refine ⟨insertedProfile data, ?_⟩
  unfold createProfile
  rw [accepted]
  exact if_pos allFit

/-! ### The law of one update -/

/-- A field reads back as a creation with it would store it. -/
def ReadsAsCreated (after : SearchProfile) (field : ProfileField) (value : Json) : Prop :=
  ∃ created, createProfile [(field.name, value)] = .ok created ∧
    after.read field.name = created.read field.name

/-- The settings a plan is made of: the inputs of `compute_plan_input_fingerprint`. -/
def planFields : List String :=
  ["role_description", "search_strategy", "preferred_domains", "max_queries",
    "max_occupation_queries", "max_keyword_queries"]

/-- What an update has to do to a profile. -/
structure UpdateLaw (profile : SearchProfile) (body : Dict String Json) (after : SearchProfile) :
    Prop where
  given : ∀ field ∈ profileFields, ∀ value, Dict.lookup field.name body = some value →
    ReadsAsCreated after field value
  absent : ∀ field ∈ profileFields, Dict.lookup field.name body = none →
    after.read field.name = profile.read field.name
  planDropped : (∃ name ∈ planFields, after.read name ≠ profile.read name) →
    after.cachedQueries = .null
  answered : responseAccepts after = true

/-- What the response will read of a field after the update. -/
def resulting (profile : SearchProfile) (body : Dict String Json) (field : ProfileField) :
    Option Json :=
  match (Dict.lookup field.name body).bind field.onUpdate with
  | some value => if value = .null then responded profile field else some value
  | none => responded profile field

/-- When an update does so: the schemas read the values alike, a null is given only for what is
unset by it, the integers fit, and the workloads that result are in order. -/
structure Meets (profile : SearchProfile) (body : Dict String Json) : Prop where
  alike : ∀ field ∈ profileFields, ∀ value, Dict.lookup field.name body = some value →
    field.onCreate value = field.onUpdate value
  nulls : ∀ field ∈ profileFields, ∀ value, Dict.lookup field.name body = some value →
    field.onUpdate value = some .null →
      if field.name ∈ preferenceFields then
        profile.read field.name = unsetValue field.name
      else unsetValue field.name = .null
  fits : ∀ field ∈ profileFields, field.name ∉ preferenceFields →
    ∀ value here, Dict.lookup field.name body = some value → field.onUpdate value = some here →
      fitsColumn here = true
  ordered : ∀ least ∈ (resulting profile body (unsettable "workload_min")).bind asNumber,
    ∀ most ∈ (resulting profile body (unsettable "workload_max")).bind asNumber, least ≤ most

/-- A profile as the writers leave it, which the response takes. -/
structure Stored (profile : SearchProfile) : Prop where
  solid : Solid profile.advancedPreferences
  accepted : responseAccepts profile = true

/-! ### One update -/

section

variable {profile : SearchProfile} {body data : Dict String Json}

theorem kept_read (reads : ReadsUpdate body data) (solid : Solid profile.advancedPreferences)
    (absent : Dict.lookup name body = none) :
    (updatedProfile profile data).read name = profile.read name :=
  read_updatedProfile_kept solid reads.distinct reads.typed (Or.inl (reads.absent name absent))

/-- A null is not stored in the preferences; any other value that is given is stored. -/
theorem given_read (reads : ReadsUpdate body data) (solid : Solid profile.advancedPreferences)
    {field : ProfileField} (member : field ∈ profileFields) {value here : Json}
    (given : Dict.lookup field.name body = some value)
    (taken : field.onUpdate value = some here) :
    (updatedProfile profile data).read field.name =
      if field.name ∈ preferenceFields ∧ here = .null then profile.read field.name
      else stored here := by
  obtain ⟨other, takenOther, found⟩ := reads.given field member value given
  obtain rfl := Option.some.inj (taken.symm.trans takenOther)
  split
  · rename_i ignored
    exact read_updatedProfile_kept solid reads.distinct reads.typed
      (Or.inr ⟨ignored.1, ignored.2 ▸ found⟩)
  · rename_i counts
    exact read_updatedProfile_given solid reads.distinct reads.typed found
      fun preference null => counts ⟨preference, null⟩

/-- An update is written where its columns take it. -/
theorem updateProfile_ok_iff (accepted : searchProfileUpdate body = some data)
    {after : SearchProfile} : updateProfile profile body = .ok after ↔
      (∀ field ∈ profileFields, field.name ∉ preferenceFields → ∀ value here,
        Dict.lookup field.name body = some value → field.onUpdate value = some here →
          fitsColumn here = true ∧ ¬(here = .null ∧ field.name ∈ requiredColumns)) ∧
        after = updatedProfile profile data := by
  have reads := searchProfileUpdate_some accepted
  have allFit : ((columnData data).all fun item =>
      fitsColumn item.2 && !(item.2 = .null && item.1 ∈ requiredColumns)) = true ↔
      ∀ field ∈ profileFields, field.name ∉ preferenceFields → ∀ value here,
        Dict.lookup field.name body = some value → field.onUpdate value = some here →
          fitsColumn here = true ∧ ¬(here = .null ∧ field.name ∈ requiredColumns) := by
    rw [List.all_eq_true]
    constructor
    · intro fits field member isColumn value here given taken
      obtain ⟨other, takenOther, found⟩ := reads.given field member value given
      obtain rfl := Option.some.inj (taken.symm.trans takenOther)
      have inside := (Dict.mem_iff_lookup reads.distinct _ _).mpr found
      have fit := fits _ (List.mem_filter.mpr ⟨inside, decide_eq_true isColumn⟩)
      simpa [imp_iff_not_or] using fit
    · intro fits item inColumns
      obtain ⟨inside, outside⟩ := List.mem_filter.mp inColumns
      have found := (Dict.mem_iff_lookup reads.distinct item.1 item.2).mp inside
      obtain ⟨field, member, same, value, given, taken⟩ := reads.named _ _ found
      have fit := fits field member (same ▸ of_decide_eq_true outside) value item.2
        (same ▸ given) taken
      rw [same] at fit
      simpa [imp_iff_not_or] using fit
  unfold updateProfile
  rw [accepted]
  dsimp only
  by_cases fits : ((columnData data).all fun item =>
      fitsColumn item.2 && !(item.2 = .null && item.1 ∈ requiredColumns)) = true
  · rw [if_pos fits]
    exact ⟨fun same => ⟨allFit.mp fits, (Except.ok.inj same).symm⟩,
      fun both => congrArg Except.ok both.2.symm⟩
  · rw [if_neg fits]
    exact ⟨nofun, fun both => absurd (allFit.mpr both.1) fits⟩

/-- A setting of the plan that changes drops the cached plan. -/
theorem planDropped (reads : ReadsUpdate body data) (solid : Solid profile.advancedPreferences)
    (changed : ∃ name ∈ planFields, (updatedProfile profile data).read name ≠ profile.read name) :
    (updatedProfile profile data).cachedQueries = .null := by
  by_contra remains
  have quiet : ¬(queryCacheInvalidationFields.any (fun name =>
      (Dict.lookup name (columnData data)).isSome) = true ∨
        mergedPreferences profile.advancedPreferences (extractedPreferences data) ≠ []) := by
    intro resets
    exact remains (if_pos resets)
  obtain ⟨noColumn, noMerge⟩ := not_or.mp quiet
  obtain ⟨name, inPlan, different⟩ := changed
  apply different
  by_cases isPreference : name ∈ preferenceFields
  · unfold SearchProfile.read
    rw [if_pos isPreference, if_pos isPreference]
    show (Dict.lookup name (if mergedPreferences _ _ = [] then _ else _)).getD _ = _
    rw [if_pos (not_not.mp noMerge)]
  · have columns : ∀ name ∈ planFields, name ∉ preferenceFields →
        name ∈ queryCacheInvalidationFields := by decide
    have invalidates := columns name inPlan isPreference
    have absent : Dict.lookup name data = none := by
      rw [← lookup_columnData isPreference]
      by_contra present
      refine noColumn (List.any_eq_true.mpr ⟨name, invalidates, ?_⟩)
      exact Option.isSome_iff_ne_none.mpr present
    exact read_updatedProfile_kept solid reads.distinct reads.typed (Or.inl absent)

omit [SettingTables] in
theorem limit_int {whole : Int} (least : 0 ≤ whole) :
    limit (.int whole) = some (.int whole) := by
  have set : isUnset (.int whole) = false := by
    have different : whole ≠ -1 := by omega
    simp [isUnset, different]
  unfold limit
  rw [set, wholeNumber_int]
  rfl

/-- The values an update stores and the response takes again, under the law's condition. -/
theorem responded_updatedProfile (reads : ReadsUpdate body data) (was : Stored profile)
    (meets : Meets profile body) {field : ProfileField} (member : field ∈ profileFields) :
    (responded (updatedProfile profile data) field).isSome ∧
      (∀ number ∈ (responded (updatedProfile profile data) field).bind asNumber,
        number ∈ (resulting profile body field).bind asNumber ∧ inRange field.name number) := by
  obtain ⟨wasTaken, wasBounded, -⟩ := responseAccepts_iff.mp was.accepted
  cases given : Dict.lookup field.name body with
  | none =>
    have same : responded (updatedProfile profile data) field = responded profile field := by
      unfold responded
      rw [kept_read reads was.solid given]
    have result : resulting profile body field = responded profile field := by
      unfold resulting
      rw [given]
      rfl
    rw [same, result]
    exact ⟨wasTaken field member, fun number found => ⟨found, wasBounded field member number found⟩⟩
  | some value =>
    obtain ⟨here, taken, found⟩ := reads.given field member value given
    have readAfter := given_read reads was.solid member given taken
    split at readAfter
    · rename_i ignored
      have same : responded (updatedProfile profile data) field = responded profile field := by
        unfold responded
        rw [readAfter]
      have result : resulting profile body field = responded profile field := by
        unfold resulting
        rw [given, Option.bind_some, taken]
        exact if_pos ignored.2
      rw [same, result]
      exact ⟨wasTaken field member,
        fun number found => ⟨found, wasBounded field member number found⟩⟩
    · have created : field.onCreate value = some here :=
        (meets.alike field member value given).trans taken
      have same : responded (updatedProfile profile data) field = field.onCreate (stored here) := by
        unfold responded
        rw [readAfter]
      rw [same]
      refine ⟨(facts field member).again value here created, fun number isNumber => ?_⟩
      obtain ⟨again, readAgain, isAgain⟩ := Option.bind_eq_some_iff.mp isNumber
      have whole : again = .int number := by
        cases again <;> cases isAgain
        rfl
      have hereNumber := (facts field member).numeric value here number taken (whole ▸ readAgain)
      subst hereNumber
      constructor
      · unfold resulting
        rw [given, Option.bind_some, taken]
        exact Option.bind_eq_some_iff.mpr ⟨_, if_neg nofun, rfl⟩
      · exact (validProfileRanges_iff.mp reads.ranges).1 field.name number
          (Option.bind_eq_some_iff.mpr ⟨_, found, rfl⟩)

/-- A workload that results is one that the response reads. -/
theorem mem_responded_workload (reads : ReadsUpdate body data)
    (solid : Solid profile.advancedPreferences)
    (isWorkload : name ∈ ["workload_min", "workload_max"])
    (member : unsettable name ∈ profileFields) {number : Int}
    (result : number ∈ (resulting profile body (unsettable name)).bind asNumber) :
    number ∈ (responded (updatedProfile profile data) (unsettable name)).bind asNumber := by
  unfold resulting at result
  cases given : Dict.lookup name body with
  | none =>
    rw [show (unsettable name).name = name from rfl, given] at result
    show number ∈ (limit ((updatedProfile profile data).read name)).bind asNumber
    rw [kept_read reads solid given]
    exact result
  | some value =>
    obtain ⟨here, taken, found⟩ := reads.given (unsettable name) member value given
    have readAfter := given_read reads solid member given taken
    rw [show (unsettable name).name = name from rfl, given, Option.bind_some, taken] at result
    dsimp only at result
    unfold responded
    rw [readAfter]
    by_cases null : here = .null
    · have workloads : ∀ name ∈ ["workload_min", "workload_max"], name ∈ preferenceFields := by
        decide
      have isPreference := workloads name isWorkload
      rw [if_pos null] at result
      rw [if_pos ⟨isPreference, null⟩]
      exact result
    · rw [if_neg null] at result
      rw [if_neg fun ignored => null ignored.2]
      have whole : here = .int number := by
        cases here <;> cases result
        rfl
      subst whole
      have least := ((validProfileRanges_iff.mp reads.ranges).1 name number
        (Option.bind_eq_some_iff.mpr ⟨_, found, rfl⟩)).1 isWorkload
      show number ∈ (limit (.int number)).bind asNumber
      rw [limit_int least.1]
      rfl

/-- An accepted update of a stored profile does what it has to do exactly when it meets the
condition. -/
theorem updateLaw_iff (was : Stored profile) (accepted : searchProfileUpdate body = some data) :
    (∃ after, updateProfile profile body = .ok after ∧ UpdateLaw profile body after) ↔
      Meets profile body := by
  have reads := searchProfileUpdate_some accepted
  constructor
  · rintro ⟨after, updated, law⟩
    obtain ⟨fits, rfl⟩ := (updateProfile_ok_iff accepted).mp updated
    -- What the two schemas make of a value is compared through what is read back.
    have compared : ∀ field ∈ profileFields, ∀ value, Dict.lookup field.name body = some value →
        ∃ here, field.onUpdate value = some here ∧ field.onCreate value = some here ∧
          (if field.name ∈ preferenceFields ∧ here = .null then profile.read field.name
            else stored here) =
              if here = .null then unsetValue field.name else stored here := by
      intro field member value given
      obtain ⟨here, taken, -⟩ := reads.given field member value given
      obtain ⟨created, made, same⟩ := law.given field member value given
      obtain ⟨other, isCreated, readCreated⟩ := createProfile_single member made
      rw [given_read reads was.solid member given taken, readCreated] at same
      rcases (facts field member).apart value other here isCreated taken with
        rfl | ⟨unset, solid, storedHere, storedOther⟩
      · exact ⟨other, taken, isCreated, same⟩
      · rw [if_neg fun ignored => solid ignored.2, storedHere, unset, storedOther] at same
        have equal : here = other := by
          split at same
          · exact absurd same solid
          · exact same
        subst equal
        refine ⟨here, taken, isCreated, ?_⟩
        rw [if_neg fun ignored => solid ignored.2, if_neg solid]
    refine ⟨fun field member value given => ?_, fun field member value given null => ?_,
      fun field member isColumn value here given taken => ?_, fun least isLeast most isMost => ?_⟩
    · obtain ⟨here, taken, isCreated, -⟩ := compared field member value given
      exact isCreated.trans taken.symm
    · obtain ⟨here, taken, -, same⟩ := compared field member value given
      obtain rfl := Option.some.inj (null.symm.trans taken)
      rw [if_pos rfl] at same
      split
      · rename_i isPreference
        rw [if_pos ⟨isPreference, rfl⟩] at same
        exact same
      · rename_i isColumn
        rw [if_neg fun ignored => isColumn ignored.1] at same
        exact same.symm
    · exact (fits field member isColumn value here given taken).1
    · exact (responseAccepts_iff.mp law.answered).2.2 least
        (mem_responded_workload reads was.solid (by decide) mem_workloads.1 isLeast) most
        (mem_responded_workload reads was.solid (by decide) mem_workloads.2 isMost)
  · intro meets
    refine ⟨updatedProfile profile data, (updateProfile_ok_iff accepted).mpr ⟨?_, rfl⟩, ?_, ?_,
      planDropped reads was.solid, ?_⟩
    · intro field member isColumn value here given taken
      refine ⟨meets.fits field member isColumn value here given taken, ?_⟩
      rintro ⟨rfl, required⟩
      have unset := meets.nulls field member value given taken
      rw [if_neg isColumn] at unset
      have defaults : ∀ name ∈ requiredColumns, unsetValue name ≠ .null := by decide
      exact defaults field.name required unset
    · intro field member value given
      obtain ⟨here, taken, found⟩ := reads.given field member value given
      have isCreated : field.onCreate value = some here :=
        (meets.alike field member value given).trans taken
      obtain ⟨created, made⟩ := createProfile_single_of member isCreated
        (fun number isNumber => (validProfileRanges_iff.mp reads.ranges).1 field.name number
          (Option.bind_eq_some_iff.mpr ⟨here, found, isNumber⟩))
        fun isColumn => meets.fits field member isColumn value here given taken
      refine ⟨created, made, ?_⟩
      obtain ⟨other, takenOther, readCreated⟩ := createProfile_single member made
      obtain rfl := Option.some.inj (isCreated.symm.trans takenOther)
      rw [given_read reads was.solid member given taken, readCreated]
      by_cases null : here = .null
      · subst null
        have unset := meets.nulls field member value given taken
        rw [if_pos rfl]
        split
        · rename_i ignored
          rw [if_pos ignored.1] at unset
          exact unset
        · rename_i counts
          rw [if_neg fun isPreference => counts ⟨isPreference, rfl⟩] at unset
          exact unset.symm
      · rw [if_neg fun ignored => null ignored.2, if_neg null]
    · exact fun field _ absent => kept_read reads was.solid absent
    · have each := fun field (member : field ∈ profileFields) =>
        responded_updatedProfile reads was meets member
      refine responseAccepts_iff.mpr ⟨fun field member => (each field member).1,
        fun field member number found => ((each field member).2 number found).2, ?_⟩
      intro least isLeast most isMost
      exact meets.ordered least ((each _ mem_workloads.1).2 least isLeast).1 most
        ((each _ mem_workloads.2).2 most isMost).1

end

/-! ### A sequence of updates -/

/-- Every update of the sequence does what it has to do. -/
def LawThroughout (profile : SearchProfile) : List (Dict String Json) → Prop
  | [] => True
  | body :: rest => ∃ after, updateProfile profile body = .ok after ∧
    UpdateLaw profile body after ∧ LawThroughout after rest

/-- Every update of the sequence meets the condition in the state it finds. -/
def MeetThroughout (profile : SearchProfile) : List (Dict String Json) → Prop
  | [] => True
  | body :: rest => Meets profile body ∧
    ∀ after, updateProfile profile body = .ok after → MeetThroughout after rest

/-- An update that the response takes leaves a stored profile. -/
theorem stored_updateProfile {profile after : SearchProfile} {body : Dict String Json}
    (was : Stored profile) (updated : updateProfile profile body = .ok after)
    (answered : responseAccepts after = true) : Stored after := by
  refine ⟨?_, answered⟩
  unfold updateProfile at updated
  split at updated
  · cases updated
  · split at updated
    · obtain rfl := Except.ok.inj updated
      show Solid (if mergedPreferences _ _ = [] then _ else _)
      split
      · exact was.solid
      · exact solid_mergedPreferences _ _
    · cases updated

/-- Accepted updates of a stored profile keep the law throughout exactly when they meet the
condition throughout. -/
theorem profileUpdates_iff {profile : SearchProfile} {bodies : List (Dict String Json)}
    (was : Stored profile) (accepted : ∀ body ∈ bodies, (searchProfileUpdate body).isSome) :
    LawThroughout profile bodies ↔ MeetThroughout profile bodies := by
  induction bodies generalizing profile with
  | nil => exact Iff.rfl
  | cons body rest inductionHypothesis =>
    obtain ⟨data, isData⟩ := Option.isSome_iff_exists.mp (accepted body List.mem_cons_self)
    have later : ∀ other ∈ rest, (searchProfileUpdate other).isSome :=
      fun other member => accepted other (List.mem_cons_of_mem _ member)
    constructor
    · rintro ⟨after, updated, law, throughout⟩
      refine ⟨(updateLaw_iff was isData).mp ⟨after, updated, law⟩, fun other isOther => ?_⟩
      obtain rfl := Except.ok.inj (updated.symm.trans isOther)
      exact (inductionHypothesis (stored_updateProfile was updated law.answered) later).mp
        throughout
    · rintro ⟨meets, throughout⟩
      obtain ⟨after, updated, law⟩ := (updateLaw_iff was isData).mpr meets
      exact ⟨after, updated, law, (inductionHypothesis
        (stored_updateProfile was updated law.answered) later).mpr (throughout after updated)⟩

/-- A single value that both schemas read alike meets the condition, when it is no workload. -/
theorem meets_single (was : Stored profile) {field : ProfileField}
    (member : field ∈ profileFields) {value here : Json} (created : field.onCreate value = some here)
    (updated : field.onUpdate value = some here) (solid : here ≠ .null)
    (fits : fitsColumn here = true) (noWorkload : field.name ∉ ["workload_min", "workload_max"]) :
    Meets profile [(field.name, value)] := by
  have only : ∀ other ∈ profileFields, ∀ given,
      Dict.lookup other.name [(field.name, value)] = some given → other = field ∧ given = value := by
    intro other isOther given found
    rw [Dict.lookup_cons, Dict.lookup_nil] at found
    split at found
    · rename_i same
      exact ⟨(eq_of_name member isOther same).symm, (Option.some.inj found).symm⟩
    · cases found
  have workload : ∀ name ∈ ["workload_min", "workload_max"],
      resulting profile [(field.name, value)] (unsettable name) =
        responded profile (unsettable name) := by
    intro name isWorkload
    have other : field.name ≠ (unsettable name).name := by
      intro same
      exact noWorkload (same ▸ isWorkload)
    unfold resulting
    rw [Dict.lookup_cons, if_neg other]
    rfl
  refine ⟨fun other isOther given found => ?_, fun other isOther given found null => ?_,
    fun other isOther _ given there found taken => ?_, ?_⟩
  · obtain ⟨rfl, rfl⟩ := only other isOther given found
    exact created.trans updated.symm
  · obtain ⟨rfl, rfl⟩ := only other isOther given found
    exact absurd (Option.some.inj (updated.symm.trans null)) solid
  · obtain ⟨rfl, rfl⟩ := only other isOther given found
    rw [← Option.some.inj (updated.symm.trans taken)]
    exact fits
  · rw [workload _ (by decide), workload _ (by decide)]
    exact (responseAccepts_iff.mp was.accepted).2.2

end

/-! ### A filter that cannot be cleared -/

section

/-- Scalars that are read only of their own spelling. -/
@[reducible] def LaxScalars.own : LaxScalars where
  readInt := fun value =>
    match value with
    | .int number => some number
    | _ => none
  readBool := fun value =>
    match value with
    | .bool answer => some answer
    | _ => none
  readFloat := fun value =>
    match value with
    | .float text => some text
    | _ => none
  atLeast := fun _ _ => true
  atMost := fun _ _ => true
  exceeds := fun _ _ => false
  readDate := fun _ => none
  isoDate := fun _ => ""
  readMoment := fun value =>
    match value with
    | .str text => some text
    | _ => none
  readInt_int := fun _ => rfl
  readBool_bool := fun _ => rfl
  readFloat_float := fun _ _ _ => rfl
  readDate_isoDate := fun _ _ => nofun
  readMoment_str := fun _ _ _ => rfl

/-- Text that is lower-case already. -/
@[reducible] def SettingTables.ascii : SettingTables where
  lower := id
  pythonText := fun _ => ""
  coerce := fun _ value => value

attribute [local instance] LaxScalars.own SettingTables.ascii

/-- A search for jobs that pay a salary. -/
def paidSearch : SearchProfile where
  columns := unsetValue
  advancedPreferences := [("salary_min_chf", .int 80000)]
  cachedQueries := .null
  cachedCvSummary := .null
  normalizationFingerprint := .null
  normalizationStatus := .str "pending"

theorem stored_paidSearch : Stored paidSearch := by
  refine ⟨fun item member => ?_, by decide +kernel⟩
  rw [List.mem_singleton.mp member]
  nofun

/-- A limit that is set twice reads back. -/
theorem profileUpdates_limits :
    LawThroughout paidSearch [[("max_queries", .int 5)], [("max_queries", .int 9)]] := by
  have member : unsettable "max_queries" ∈ profileFields := by
    unfold profileFields
    simp only [List.mem_cons, true_or, or_true]
  refine (profileUpdates_iff stored_paidSearch (by decide +kernel)).mpr
    ⟨@meets_single _ _ _ stored_paidSearch _ member _ (.int 5) rfl rfl nofun rfl (by decide),
      fun after updated => ⟨?_, fun _ _ => trivial⟩⟩
  have stored : Stored after := by
    obtain rfl := Except.ok.inj updated
    exact stored_updateProfile stored_paidSearch updated (by decide +kernel)
  exact @meets_single _ _ _ stored _ member _ (.int 9) rfl rfl nofun rfl (by decide)

/-- A null leaves a preference as it was. -/
theorem profileUpdates_not_cleared :
    ¬∀ profile bodies, Stored profile → (∀ body ∈ bodies, (searchProfileUpdate body).isSome) →
      LawThroughout profile bodies := by
  intro claimed
  have member : unsettable "salary_min_chf" ∈ profileFields := by
    unfold profileFields
    simp only [List.mem_cons, true_or, or_true]
  have accepted : ∀ body ∈ [[("salary_min_chf", Json.null)]],
      (searchProfileUpdate body).isSome := by
    decide +kernel
  have throughout := claimed paidSearch _ stored_paidSearch accepted
  have meets := ((profileUpdates_iff stored_paidSearch accepted).mp throughout).1
  -- The null would have to clear the salary, which is 80000.
  have unset := meets.nulls _ member .null rfl rfl
  exact absurd unset (by decide +kernel)

end

end SearchProfiles

end CareerOS
