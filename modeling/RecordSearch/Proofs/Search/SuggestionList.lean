import RecordSearch.Proofs.Search.Completion

/-! The list of suggestions. Titles, tags and kinds that hold the token stand in it, each once and
in the order in which the collection first shows them. A limit cuts the list off, and records that
come in only put further values in. -/
namespace RecordSearch

def AppearsBefore (values : List Text) (first second : Text) : Prop :=
  second ≠ first ∧ ∃ before after, values = before ++ first :: after ∧ second ∉ before

/-- The values of a list that hold the token when case is left aside, each once, in the order in
which they first appear. -/
structure ListsHolding (token : Text) (values listed : List Text) : Prop where
  members : ∀ value, value ∈ listed ↔ value ∈ values ∧ token <:+: Text.lower value
  ordered : listed.Pairwise (AppearsBefore values)

def offers (titles tags kinds : List Text) : List Text :=
  (titles.map fun title => "title:\x22".toList ++ title ++ "\x22".toList) ++
  (tags.map fun tag => "tags:".toList ++ tag) ++
    (kinds.map fun kind => "type:".toList ++ kind)

variable {token : Text} {values listed : List Text}

theorem AppearsBefore.append {first second : Text} (appears : AppearsBefore values first second)
    (more : List Text) : AppearsBefore (values ++ more) first second := by
  obtain ⟨different, before, after, rfl, new⟩ := appears
  exact ⟨different, before, after ++ more, by simp, new⟩

/-- Leaving repeats out keeps the first appearances. -/
theorem pairwise_eraseDups (values : List Text) :
    values.eraseDups.Pairwise (AppearsBefore values) := by
  induction values using List.reverseRecOn with
  | nil => exact List.Pairwise.nil
  | append_singleton values value ih =>
    have earlier := ih.imp fun appears => appears.append [value]
    rw [List.eraseDups_append]
    by_cases known : value ∈ values
    · simpa [known, List.removeAll] using earlier
    · have alone : ([value].removeAll values).eraseDups = [value] := by
        simp [known, List.removeAll, List.eraseDups_cons]
      rw [alone, List.pairwise_append]
      refine ⟨earlier, List.pairwise_singleton _ _, ?_⟩
      intro first member second here
      obtain rfl := List.mem_singleton.mp here
      obtain ⟨before, after, rfl⟩ := List.append_of_mem (List.mem_eraseDups.mp member)
      rw [List.mem_append, List.mem_cons, not_or, not_or] at known
      exact ⟨known.2.1, before, after ++ [second], by simp, known.1⟩

theorem ListsHolding.nodup (lists : ListsHolding token values listed) : listed.Nodup :=
  lists.ordered.imp fun appears same => appears.1 same.symm

theorem listsHolding_completions (token : Text) (values : List Text) :
    ListsHolding token values (completions token values) where
  members value := by rw [completions, List.mem_filter, List.mem_eraseDups, Text.occursIn_iff]
  ordered := (pairwise_eraseDups values).filter _

theorem isPrefix_completions_append (token : Text) (values more : List Text) :
    completions token values <+: completions token (values ++ more) := by
  rw [completions, completions, List.eraseDups_append, List.filter_append]
  exact List.prefix_append _ _

theorem nodup_offers {titles tags kinds : List Text} (titles_once : titles.Nodup)
    (tags_once : tags.Nodup) (kinds_once : kinds.Nodup) : (offers titles tags kinds).Nodup := by
  rw [offers, List.nodup_append', List.nodup_append']
  refine ⟨⟨titles_once.map ?_, tags_once.map ?_, ?_⟩, kinds_once.map ?_, ?_⟩
  · intro title other same
    exact List.append_cancel_left (List.append_cancel_right same)
  · intro tag other same
    exact List.append_cancel_left same
  · intro text from_title from_tag
    obtain ⟨title, -, rfl⟩ := List.mem_map.mp from_title
    obtain ⟨tag, -, same⟩ := List.mem_map.mp from_tag
    simp at same
  · intro kind other same
    exact List.append_cancel_left same
  · intro text earlier from_kind
    obtain ⟨kind, -, rfl⟩ := List.mem_map.mp from_kind
    rcases List.mem_append.mp earlier with from_title | from_tag
    · obtain ⟨title, -, same⟩ := List.mem_map.mp from_title
      simp at same
    · obtain ⟨tag, -, same⟩ := List.mem_map.mp from_tag
      simp at same

theorem allSuggestions_eq (token : Text) (records : List Record) (kinds : List Text) :
    allSuggestions token records kinds = offers (completions token (records.map Record.title))
      (completions token (records.flatMap Record.tags)) (completions token kinds) := by
  simp [allSuggestions, offers]

theorem offers_sublist {titles tags kinds more_titles more_tags more_kinds : List Text}
    (titles_kept : titles.Sublist more_titles) (tags_kept : tags.Sublist more_tags)
    (kinds_kept : kinds.Sublist more_kinds) :
    (offers titles tags kinds).Sublist (offers more_titles more_tags more_kinds) :=
  ((titles_kept.map _).append (tags_kept.map _)).append (kinds_kept.map _)

/-- The kinds of records have names if each is one of the five. -/
theorem kindNames_eq_ok_iff {records : List Record} {names : List Text} :
    kindNames records = .ok names ↔
      (∀ record ∈ records, ∃ type, record.kind = .known type) ∧
        records.map (fun record => record.kind.name) = names := by
  induction records generalizing names with
  | nil => simp [kindNames]
  | cons record rest ih =>
    rw [List.forall_mem_cons, List.map_cons, kindNames]
    cases kind : record.kind with
    | other name => simp [Filters.contentTypeOf, kind, bind, Except.bind]
    | known type =>
      cases later : kindNames rest with
      | error fault =>
        have unknown : ¬ ∀ record ∈ rest, ∃ type, record.kind = .known type := by
          intro known
          rw [ih.mpr ⟨known, rfl⟩] at later
          contradiction
        simp [Filters.contentTypeOf, kind, unknown, bind, Except.bind]
      | ok others =>
        obtain ⟨known, rfl⟩ := ih.mp later
        rw [and_iff_right ⟨⟨type, rfl⟩, known⟩]
        simp [Filters.contentTypeOf, kind, bind, Except.bind, pure, Except.pure, Kind.name]

theorem suggestions_eq_ok_iff {partialQuery : Text}
    (long : 2 ≤ (Text.lower (Text.lastToken partialQuery)).length) {records : List Record}
    (limit : Option Int) {offered : List Text} :
    suggestions partialQuery records limit = .ok offered ↔
      (∀ record ∈ records, ∃ type, record.kind = .known type) ∧
        takeLimit limit (allSuggestions (Text.lower (Text.lastToken partialQuery)) records
          (records.map fun record => record.kind.name)) = offered := by
  simp only [suggestions, minTokenLength, Nat.not_lt.mpr long, if_false]
  cases read : kindNames records with
  | error fault =>
    have unknown : ¬ ∀ record ∈ records, ∃ type, record.kind = .known type := by
      intro known
      rw [kindNames_eq_ok_iff.mpr ⟨known, rfl⟩] at read
      contradiction
    simp [unknown, Except.map]
  | ok names =>
    obtain ⟨known, rfl⟩ := kindNames_eq_ok_iff.mp read
    rw [and_iff_right known]
    simp [Except.map]

/-- A token of two characters or more is completed for every collection whose records are of known
kinds. What is offered is what holds the token, once each in the order of first appearance: titles,
then tags, then kinds. A limit shows the first of them, and a collection that grows offers them
still, in the same order and with others in between. -/
theorem suggestions_list_first_appearances {partialQuery : Text}
    (long : 2 ≤ (Text.lower (Text.lastToken partialQuery)).length) (records : List Record) :
    (∀ limit, (∃ offered, suggestions partialQuery records limit = .ok offered) ↔
        ∀ record ∈ records, ∃ type, record.kind = .known type) ∧
      ((∀ record ∈ records, ∃ type, record.kind = .known type) → ∃ titles tags kinds offered,
        ListsHolding (Text.lower (Text.lastToken partialQuery)) (records.map Record.title) titles ∧
        ListsHolding (Text.lower (Text.lastToken partialQuery)) (records.flatMap Record.tags) tags ∧
        ListsHolding (Text.lower (Text.lastToken partialQuery)) (records.map fun record =>
            record.kind.name) kinds ∧
        offered = offers titles tags kinds ∧ offered.Nodup ∧
        suggestions partialQuery records none = .ok offered ∧
        (∀ limit : Nat, ∃ shown, suggestions partialQuery records (some limit) = .ok shown ∧
          shown <+: offered ∧ shown.length = min limit offered.length) ∧
        ∀ more, (∀ record ∈ more, ∃ type, record.kind = .known type) →
          ∃ grown, suggestions partialQuery (records ++ more) none = .ok grown ∧
              offered.Sublist grown) := by
  refine ⟨fun limit => ?_, fun known => ?_⟩
  · simp [suggestions_eq_ok_iff long limit]
  generalize token_eq : Text.lower (Text.lastToken partialQuery) = token
  have titles := listsHolding_completions token (records.map Record.title)
  have tags := listsHolding_completions token (records.flatMap Record.tags)
  have kinds := listsHolding_completions token (records.map fun record => record.kind.name)
  have listed (limit : Option Int) := (suggestions_eq_ok_iff long limit).mpr ⟨known, rfl⟩
  simp only [token_eq, allSuggestions_eq] at listed
  refine ⟨_, _, _, _, titles, tags, kinds, rfl, nodup_offers titles.nodup tags.nodup kinds.nodup,
    listed none, ?_, ?_⟩
  · intro limit
    exact ⟨_, listed (some limit), List.take_prefix _ _, List.length_take⟩
  · intro more more_known
    have all_known : ∀ record ∈ records ++ more, ∃ type, record.kind = .known type := by
      intro record member
      exact (List.mem_append.mp member).elim (known record) (more_known record)
    have grown := (suggestions_eq_ok_iff long none).mpr ⟨all_known, rfl⟩
    simp only [token_eq, allSuggestions_eq, List.map_append, List.flatMap_append] at grown
    exact ⟨_, grown,
      offers_sublist (isPrefix_completions_append _ _ _).sublist
      (isPrefix_completions_append _ _ _).sublist
      (isPrefix_completions_append _ _ _).sublist⟩

/-- A title and a tag that stand twice, tags that differ in their capitals only, and a kind that
comes in later. -/
theorem suggestions_list_first_appearances_repeated :
    let stamp := Stamp.read ⟨0, by decide, none⟩
    let record (title : String) (type : ContentType) (tags : List String) : Record :=
      { id := ['1'], title := title.toList, kind := .known type, tags := tags.map String.toList,
        created := stamp, updated := stamp }
    let records :=
      [record "Limits" .note ["list", "LIST"], record "Alias" .note [],
          record "Limits" .image ["list", "set"]]
    let more := [record "Outline" .link ["alien"]]
    let offered :=
      ["title:\x22Limits\x22".toList, "title:\x22Alias\x22".toList, "tags:list".toList,
          "tags:LIST".toList]
    2 ≤ (Text.lower (Text.lastToken "find LI".toList)).length ∧
      (∀ record ∈ records ++ more, ∃ type, record.kind = .known type) ∧
      suggestions "find LI".toList records none = .ok offered ∧ offered.Nodup ∧
      (∃ shown, suggestions "find LI".toList records (some (3 : Nat)) = .ok shown ∧
          shown <+: offered ∧ shown.length = 3) ∧
      ∃ grown, suggestions "find LI".toList (records ++ more) none = .ok grown ∧
        offered.Sublist grown := by
  intro stamp record records more offered
  have long : 2 ≤ (Text.lower (Text.lastToken "find LI".toList)).length := by decide +kernel
  have known : ∀ record ∈ records ++ more, ∃ type, record.kind = .known type := by
    simp [records, more, record]
  have returns : suggestions "find LI".toList records none = .ok offered := by decide +kernel
  obtain ⟨titles, tags, kinds, own, -, -, -, -, once, listed, limits, grows⟩ :=
    (suggestions_list_first_appearances long records).2 fun record member =>
      known record (List.mem_append_left _ member)
  obtain rfl : own = offered := Except.ok.inj (listed.symm.trans returns)
  refine ⟨long, known, returns, once, ?_,
    grows more fun record member => known record (List.mem_append_right _ member)⟩
  exact limits 3

end RecordSearch
