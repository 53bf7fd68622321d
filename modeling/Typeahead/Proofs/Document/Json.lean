import Mathlib.Data.List.Nodup
import Typeahead.Document.Format
import Typeahead.Proofs.Json.Reading

namespace Typeahead.Document
open Json (TextOf)

-- What there need not be is left out or null if there is none.
inductive Field (key : Text) (write : α → Json) : Option α → List (Text × Json) → Prop
  | omitted : Field key write none []
  | null : Field key write none [(key, .null)]
  | present : Field key write (some content) [(key, write content)]

def jsonTexts (texts : List Text) : Json := .arr (texts.map .str)

inductive VariableMembers (name : Text) (node : Json) (tag : Option Text)
    (completions : Option (List Text)) : List (Text × Json) → Prop
  | inOrder (tagged : Field "tag".toList .str tag a)
      (completed : Field "completions".toList jsonTexts completions b)
      (order : members.Perm (("name".toList, .str name) :: ("node".toList, node) :: (a ++ b))) :
      VariableMembers name node tag completions members

mutual
inductive Writes : Definition → Json → Prop
  | seq (each : WritesEach items values) : Writes (.seq items) (.obj [("seq".toList, .arr values)])
  | alt (each : WritesEach items values) : Writes (.alt items) (.obj [("alt".toList, .arr values)])
  | literal : Writes (.literal text) (.obj [("literal".toList, .str text)])
  | charClass : Writes (.charClass text) (.obj [("class".toList, .str text)])
  | repetition (inside : Writes body value) :
      Writes (.repetition body) (.obj [("repeat".toList, value)])
  | var (inside : Writes body value) (fields : VariableMembers name value tag completions members) :
      Writes (.var name body tag completions) (.obj [("var".toList, .obj members)])

inductive WritesEach : List Definition → List Json → Prop
  | nil : WritesEach [] []
  | cons (first : Writes item value) (others : WritesEach items values) :
      WritesEach (item :: items) (value :: values)
end

inductive DocumentMembers (description : Option Text) (grammar : Json) : List (Text × Json) → Prop
  | inOrder (described : Field "description".toList .str description a)
      (order : members.Perm (a ++ [("grammar".toList, grammar)])) :
      DocumentMembers description grammar members

inductive WritesDocument (d : Document) : Json → Prop
  | object (inside : Writes d.grammar value) (fields : DocumentMembers d.description value members) :
      WritesDocument d (.obj members)

-- One more member, before, between or after the others.
def OneMore (key : Text) (members more : List (Text × Json)) : Prop :=
  ∃ before after value, members = before ++ after ∧ more = before ++ (key, value) :: after

-- A key that is none of these, or comes a second time.
def Stray (key : Text) (keys : List Text) (members : List (Text × Json)) : Prop :=
  key ∉ keys ∨ key ∈ members.map Prod.fst

-- A definition is written, but for one more member in one of the objects. Where there is to be one
-- member only, a second one is too many whatever its key is.
inductive Strays : Definition → Json → Prop
  | node (writes : Writes d (.obj members)) (added : OneMore key members more) : Strays d (.obj more)
  | seq (before : WritesEach items values) (inside : Strays item value)
      (after : WritesEach items' values') :
      Strays (.seq (items ++ item :: items')) (.obj [("seq".toList, .arr (values ++ value :: values'))])
  | alt (before : WritesEach items values) (inside : Strays item value)
      (after : WritesEach items' values') :
      Strays (.alt (items ++ item :: items')) (.obj [("alt".toList, .arr (values ++ value :: values'))])
  | repetition (inside : Strays body value) :
      Strays (.repetition body) (.obj [("repeat".toList, value)])
  | body (inside : Strays body value) (fields : VariableMembers name value tag completions members) :
      Strays (.var name body tag completions) (.obj [("var".toList, .obj members)])
  | var (inside : Writes body value) (fields : VariableMembers name value tag completions members)
      (added : OneMore key members more)
      (stray : Stray key ["name".toList, "node".toList, "tag".toList, "completions".toList] members) :
      Strays (.var name body tag completions) (.obj [("var".toList, .obj more)])

inductive StraysDocument (d : Document) : Json → Prop
  | grammar (inside : Strays d.grammar value) (fields : DocumentMembers d.description value members) :
      StraysDocument d (.obj members)
  | document (inside : Writes d.grammar value) (fields : DocumentMembers d.description value members)
      (added : OneMore key members more)
      (stray : Stray key ["description".toList, "grammar".toList] members) : StraysDocument d (.obj more)

section
variable {key : Text} {keys : List Text} {members more fields : List (Text × Json)} {value : Json}

theorem keysAmong_iff (keys found : List Text) :
    keysAmong keys found = true ↔ (∀ key ∈ found, key ∈ keys) ∧ found.Nodup := by
  induction found with
  | nil => simp [keysAmong]
  | cons key found ih =>
    simp only [keysAmong, Bool.and_eq_true, ih, List.contains_eq_mem, decide_eq_true_eq,
      Bool.not_eq_true', decide_eq_false_iff_not, List.forall_mem_cons, List.nodup_cons]
    constructor
    · rintro ⟨⟨known, new⟩, others, distinct⟩
      exact ⟨⟨known, others⟩, new, distinct⟩
    · rintro ⟨⟨known, others⟩, new, distinct⟩
      exact ⟨⟨known, new⟩, others, distinct⟩

theorem lookup_of_mem (distinct : (members.map Prod.fst).Nodup) (member : (key, value) ∈ members) :
    members.lookup key = some value := by
  obtain ⟨before, after, rfl⟩ := List.append_of_mem member
  refine List.lookup_eq_some_iff.mpr ⟨before, after, rfl, fun row earlier => ?_⟩
  rw [List.map_append, List.nodup_append] at distinct
  have apart := distinct.2.2 row.1 (List.mem_map_of_mem earlier) key (List.mem_cons_self ..)
  exact bne_iff_ne.mpr fun same => apart same.symm

theorem mem_of_lookup (found : members.lookup key = some value) : (key, value) ∈ members := by
  obtain ⟨before, after, rfl, _⟩ := List.lookup_eq_some_iff.mp found
  exact List.mem_append_right _ (List.mem_cons_self ..)

theorem lookup_perm (distinct : (fields.map Prod.fst).Nodup) (order : members.Perm fields) (key : Text) :
    members.lookup key = fields.lookup key := by
  have distinct' : (members.map Prod.fst).Nodup := (order.map Prod.fst).nodup_iff.mpr distinct
  refine Option.ext fun value => ⟨fun found => ?_, fun found => ?_⟩
  · exact lookup_of_mem distinct (order.mem_iff.mp (mem_of_lookup found))
  · exact lookup_of_mem distinct' (order.mem_iff.mpr (mem_of_lookup found))

theorem bodyOfMembers?_eq (members : List (Text × Json)) :
    bodyOfMembers? members = (members.lookup "node".toList).bind definitionOfJson? := by
  induction members with
  | nil => rw [bodyOfMembers?]; rfl
  | cons member members ih =>
    obtain ⟨key, value⟩ := member
    rw [bodyOfMembers?, List.lookup_cons, ih]
    generalize "node".toList = node
    by_cases here : key = node
    · simp [here]
    · have other : (node == key) = false := beq_false_of_ne (Ne.symm here)
      rw [if_neg here, other]

theorem OneMore.not_among (added : OneMore key members more) (stray : Stray key keys members) :
    keysAmong keys (more.map Prod.fst) = false := by
  obtain ⟨before, after, value, rfl, rfl⟩ := added
  refine Bool.eq_false_iff.mpr fun among => ?_
  obtain ⟨known, distinct⟩ := (keysAmong_iff _ _).mp among
  simp only [List.map_append, List.map_cons] at known distinct
  rcases stray with unknown | again
  · exact unknown (known key (List.mem_append_right _ (List.mem_cons_self ..)))
  · rw [List.map_append] at again
    exact (List.nodup_cons.mp (List.nodup_middle.mp distinct)).1 again

section
variable {content : Option Text} {contents : Option (List Text)} {write : α → Json} {given : Option α}
  {rows : List (Text × Json)} {other : Text}

theorem Field.own_key (field : Field key write given rows) : (rows.map Prod.fst).Sublist [key] := by
  cases field with
  | omitted => exact List.nil_sublist _
  | null | present => exact List.Sublist.refl _

theorem Field.lookup_other (field : Field key write given rows) (apart : other ≠ key) :
    rows.lookup other = none := by
  cases field with
  | omitted => rfl
  | null | present => simp [apart]

theorem Field.text (field : Field key .str content rows) :
    jsonOptionalText? (rows.lookup key) = some content := by
  cases field with
  | omitted => rfl
  | null | present => rw [List.lookup_cons_self]; rfl

theorem mapM_jsonText? (texts : List Text) : (texts.map Json.str).mapM jsonText? = some texts := by
  induction texts with
  | nil => rfl
  | cons text texts ih =>
    rw [List.map_cons, List.mapM_cons, ih]
    rfl

theorem Field.texts (field : Field key jsonTexts contents rows) :
    jsonOptionalTexts? (rows.lookup key) = some contents := by
  cases field with
  | omitted => rfl
  | null => rw [List.lookup_cons_self]; rfl
  | present =>
    rw [List.lookup_cons_self, jsonTexts, jsonOptionalTexts?, mapM_jsonText?]
    rfl

end

-- The members lead to these contents.
structure ReadsVariable (name : Text) (node : Json) (tag : Option Text) (completions : Option (List Text))
    (members : List (Text × Json)) : Prop where
  keys : keysAmong variableKeys (members.map Prod.fst) = true
  name : members.lookup "name".toList = some (.str name)
  node : members.lookup "node".toList = some node
  tag : jsonOptionalText? (members.lookup "tag".toList) = some tag
  completions : jsonOptionalTexts? (members.lookup "completions".toList) = some completions

theorem keysAmong_of_perm (sublist : (fields.map Prod.fst).Sublist keys) (distinct : keys.Nodup)
    (order : members.Perm fields) : keysAmong keys (members.map Prod.fst) = true := by
  refine (keysAmong_iff _ _).mpr ⟨fun key member => ?_, ?_⟩
  · exact sublist.subset ((order.map Prod.fst).mem_iff.mp member)
  · exact (order.map Prod.fst).nodup_iff.mpr (sublist.nodup distinct)

theorem VariableMembers.read {name : Text} {node : Json} {tag : Option Text}
    {completions : Option (List Text)} (written : VariableMembers name node tag completions members) :
    ReadsVariable name node tag completions members := by
  obtain ⟨tagged, completed, order⟩ := written
  rename_i a b
  have sublist : ((("name".toList, Json.str name) :: ("node".toList, node) :: (a ++ b)).map Prod.fst).Sublist
      variableKeys := by
    simp only [List.map_cons, List.map_append]
    exact ((tagged.own_key.append completed.own_key).cons_cons "node".toList).cons_cons "name".toList
  have distinct : variableKeys.Nodup := by decide
  have found := lookup_perm (sublist.nodup distinct) order
  refine ⟨keysAmong_of_perm sublist distinct order, ?_, ?_, ?_, ?_⟩
  · rw [found, List.lookup_cons_self]
  · rw [found]
    rfl
  · rw [found]
    have here : (("name".toList, Json.str name) :: ("node".toList, node) :: (a ++ b)).lookup "tag".toList =
        (a ++ b).lookup "tag".toList := rfl
    rw [here, List.lookup_append, completed.lookup_other (by decide), Option.or_none]
    exact tagged.text
  · rw [found]
    have here : (("name".toList, Json.str name) :: ("node".toList, node) :: (a ++ b)).lookup
        "completions".toList = (a ++ b).lookup "completions".toList := rfl
    rw [here, List.lookup_append, tagged.lookup_other (by decide), Option.none_or]
    exact completed.texts

end

theorem definitionOfJson?_seq (values : List Json) :
    definitionOfJson? (.obj [("seq".toList, .arr values)]) = (definitionsOfJson? values).map .seq := by
  match values with
  | [] | [_] | _ :: _ :: _ => rfl

theorem definitionOfJson?_alt (values : List Json) :
    definitionOfJson? (.obj [("alt".toList, .arr values)]) = (definitionsOfJson? values).map .alt := by
  match values with
  | [] | [_] | _ :: _ :: _ => rfl

theorem definitionOfJson?_repeat (members : List (Text × Json)) :
    definitionOfJson? (.obj [("repeat".toList, .obj members)]) =
      (definitionOfJson? (.obj members)).map .repetition := rfl

theorem definitionOfJson?_var (members : List (Text × Json)) :
    definitionOfJson? (.obj [("var".toList, .obj members)]) =
      if keysAmong variableKeys (members.map Prod.fst) then do
        jsonVariable? (members.lookup "name".toList) (← bodyOfMembers? members)
          (members.lookup "tag".toList) (members.lookup "completions".toList)
      else none := rfl

theorem Writes.object {d : Definition} {value : Json} (writes : Writes d value) :
    ∃ members, value = .obj members := by
  cases writes <;> exact ⟨_, rfl⟩

mutual
theorem Writes.read {d : Definition} {value : Json} : Writes d value → definitionOfJson? value = some d
  | .seq each => by
    rw [definitionOfJson?_seq, each.read]
    rfl
  | .alt each => by
    rw [definitionOfJson?_alt, each.read]
    rfl
  | .literal => rfl
  | .charClass => rfl
  | .repetition inside => by
    obtain ⟨members, rfl⟩ := inside.object
    rw [definitionOfJson?_repeat, inside.read]
    rfl
  | .var inside fields => by
    obtain ⟨keys, name, node, tag, completions⟩ := fields.read
    rw [definitionOfJson?_var, if_pos keys, bodyOfMembers?_eq, name, node, Option.bind_some, inside.read]
    simp only [jsonVariable?, jsonText?, tag, completions]
    rfl

theorem WritesEach.read {items : List Definition} {values : List Json} :
    WritesEach items values → definitionsOfJson? values = some items
  | .nil => rfl
  | .cons first others => by
    rw [definitionsOfJson?, first.read, others.read]
    rfl
end

theorem OneMore.length (added : OneMore key members more) : more.length = members.length + 1 := by
  obtain ⟨before, after, value, rfl, rfl⟩ := added
  simp only [List.length_append, List.length_cons, Nat.add_assoc]

theorem Writes.one_member {d : Definition} (writes : Writes d (.obj members)) : members.length = 1 := by
  cases writes <;> rfl

theorem definitionOfJson?_many {members : List (Text × Json)} (many : 1 < members.length) :
    definitionOfJson? (.obj members) = none := by
  match members, many with
  | (_, value) :: _ :: _, _ => cases value <;> rfl

theorem definitionsOfJson?_none {value : Json} (unread : definitionOfJson? value = none)
    (before after : List Json) :
    definitionsOfJson? (before ++ value :: after) = none := by
  induction before with
  | nil =>
    rw [List.nil_append, definitionsOfJson?, unread]
    rfl
  | cons first before ih =>
    rw [List.cons_append, definitionsOfJson?, ih]
    cases definitionOfJson? first <;> rfl

theorem Strays.unread {d : Definition} {value : Json} (strays : Strays d value) :
    (∃ members, value = .obj members) ∧ definitionOfJson? value = none := by
  induction strays with
  | node writes added =>
    have two := added.length
    rw [writes.one_member] at two
    exact ⟨⟨_, rfl⟩, definitionOfJson?_many (by omega)⟩
  | seq before inside after ih =>
    rw [definitionOfJson?_seq, definitionsOfJson?_none ih.2]
    exact ⟨⟨_, rfl⟩, rfl⟩
  | alt before inside after ih =>
    rw [definitionOfJson?_alt, definitionsOfJson?_none ih.2]
    exact ⟨⟨_, rfl⟩, rfl⟩
  | repetition inside ih =>
    obtain ⟨⟨members, rfl⟩, unread⟩ := ih
    rw [definitionOfJson?_repeat, unread]
    exact ⟨⟨_, rfl⟩, rfl⟩
  | body inside fields ih =>
    rw [definitionOfJson?_var, if_pos fields.read.keys, bodyOfMembers?_eq, fields.read.node,
      Option.bind_some, ih.2]
    exact ⟨⟨_, rfl⟩, rfl⟩
  | var inside fields added stray =>
    have refused : keysAmong variableKeys _ = false := added.not_among stray
    rw [definitionOfJson?_var, if_neg (Bool.eq_false_iff.mp refused)]
    exact ⟨⟨_, rfl⟩, rfl⟩

structure ReadsDocument (description : Option Text) (grammar : Json) (members : List (Text × Json)) :
    Prop where
  keys : keysAmong documentKeys (members.map Prod.fst) = true
  description : jsonOptionalText? (members.lookup "description".toList) = some description
  grammar : members.lookup "grammar".toList = some grammar

theorem DocumentMembers.read {description : Option Text} {grammar : Json} {members : List (Text × Json)}
    (written : DocumentMembers description grammar members) : ReadsDocument description grammar members := by
  obtain ⟨described, order⟩ := written
  rename_i a
  have sublist : ((a ++ [("grammar".toList, grammar)]).map Prod.fst).Sublist documentKeys := by
    rw [List.map_append]
    exact described.own_key.append (List.Sublist.refl ["grammar".toList])
  have distinct : documentKeys.Nodup := by decide
  have found := lookup_perm (sublist.nodup distinct) order
  refine ⟨keysAmong_of_perm sublist distinct order, ?_, ?_⟩
  · have elsewhere : [("grammar".toList, grammar)].lookup "description".toList = none := rfl
    rw [found, List.lookup_append, elsewhere, Option.or_none]
    exact described.text
  · rw [found, List.lookup_append, described.lookup_other (by decide), Option.none_or, List.lookup_cons_self]

theorem ofJson?_object (members : List (Text × Json)) :
    ofJson? (.obj members) =
      if keysAmong documentKeys (members.map Prod.fst) then do
        return ⟨← jsonOptionalText? (members.lookup "description".toList),
          ← definitionOfJson? (← members.lookup "grammar".toList)⟩
      else none := rfl

theorem WritesDocument.read {d : Document} {value : Json} (writes : WritesDocument d value) :
    ofJson? value = some d := by
  obtain ⟨inside, fields⟩ := writes
  obtain ⟨keys, description, grammar⟩ := fields.read
  rw [ofJson?_object, if_pos keys, description, grammar, Option.bind_eq_bind, Option.bind_some,
    Option.bind_eq_bind, Option.bind_some, inside.read]
  rfl

theorem StraysDocument.unread {d : Document} {value : Json} (strays : StraysDocument d value) :
    ofJson? value = none := by
  cases strays with
  | grammar inside fields =>
    obtain ⟨keys, description, grammar⟩ := fields.read
    rw [ofJson?_object, if_pos keys, description, grammar, Option.bind_eq_bind, Option.bind_some,
      Option.bind_eq_bind, Option.bind_some, inside.unread.2]
    rfl
  | document inside fields added stray =>
    have refused : keysAmong documentKeys _ = false := added.not_among stray
    rw [ofJson?_object, if_neg (Bool.eq_false_iff.mp refused)]

theorem read_json (text : Text) :
    Document.read .json text =
      match readJson? text with
      | some d => .ok d
      | none => .error (.unreadable .json) := rfl

-- Every text of a document is read as that document, as deep as a reader of JSON goes. With one member
-- more in any of its objects it is not read, however deep it is.
theorem json_exact {d : Document} {value : Json} {text : Text} (written : TextOf value text) :
    (WritesDocument d value →
      Document.read .json text = if value.depth ≤ 127 then .ok d else .error (.unreadable .json)) ∧
    (StraysDocument d value → Document.read .json text = .error (.unreadable .json)) := by
  have whole : readJson? text = if value.depth ≤ 127 then ofJson? value else none := by
    have limit : Json.depthLimit = 127 := rfl
    rw [readJson?, written.read, limit]
    by_cases shallow : value.depth ≤ 127
    · rw [if_pos shallow, if_pos shallow]
      rfl
    · rw [if_neg shallow, if_neg shallow]
      rfl
  rw [read_json, whole]
  constructor
  · intro writes
    rw [writes.read]
    by_cases shallow : value.depth ≤ 127
    · rw [if_pos shallow, if_pos shallow]
    · rw [if_neg shallow, if_neg shallow]
  · intro strays
    rw [strays.unread, ite_self]

-- A variable with its members in another order, no completions, and an escape for its letter.
def wordJson : Json :=
  .obj [("var".toList, .obj [("node".toList, .obj [("literal".toList, .str "ä".toList)]),
    ("name".toList, .str "word".toList), ("tag".toList, .null)])]

def wordText : Text :=
  "\x7b\"var\":\x7b\"node\":\x7b\"literal\":\"\\u00E4\"\x7d,\"name\":\"word\",\"tag\":null\x7d\x7d".toList

theorem word_writes : Writes (.var "word".toList (.literal "ä".toList) none none) wordJson :=
  .var .literal (.inOrder .null .omitted (.swap ..))

theorem word_spells : Json.Spells wordJson wordText := by
  have umlaut : Json.SpellsText "ä".toList "\\u00E4".toList := by
    refine .cons (.unit (by decide) (.digits (by decide) (.inl ?_) (.inl ?_) (.inr ?_) (.inl ?_))) .nil
    all_goals decide
  have literal : Json.SpellsMember "literal".toList _ _ := .tight (by decide) (.str umlaut)
  have name : Json.Spells (.str "word".toList) "\"word\"".toList := .str (.plain (by decide))
  exact .members (.last (.tight (by decide) (.members (.cons (.tight (by decide) (.members (.last literal)))
    (.cons (.tight (by decide) name) (.last (.tight (by decide) .null)))))))

theorem json_exact_word :
    Document.read .json (" \x7b\"grammar\":".toList ++ wordText ++ "\x7d".toList) =
        .ok ⟨none, .var "word".toList (.literal "ä".toList) none none⟩ ∧
      Document.read .json ("\x7b\"grammar\":".toList ++ wordText ++ ",\"grammar\":null\x7d".toList) =
        .error (.unreadable .json) := by
  have member : Json.SpellsMember "grammar".toList wordJson _ := .tight (by decide) word_spells
  have other : Json.SpellsMember "grammar".toList .null _ := .tight (by decide) .null
  have written := TextOf.parts (a := [' ']) (by decide) (.members (.last member)) .none
  have repeated := TextOf.parts .none (.members (.cons member (.last other))) .none
  have fields : DocumentMembers none wordJson [("grammar".toList, wordJson)] := .inOrder .omitted (.refl _)
  constructor
  · exact (json_exact written).1 (.object word_writes fields)
  · exact (json_exact (d := ⟨none, .var "word".toList (.literal "ä".toList) none none⟩) repeated).2
      (.document word_writes fields ⟨_, [], .null, (List.append_nil _).symm, rfl⟩ (.inr (.head _)))

end Typeahead.Document
