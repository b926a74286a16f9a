import CertApproval.Settings.Load
import Mathlib.Data.List.Basic

/-!
Sources of settings, one over the other. Main statements: a setting has the value that the first
source gives it which gives it any; and a process takes its settings from its arguments, its
environment, the file of assignments and the file with a record, in this order.
-/

namespace CertApproval.Settings

/-- A source of settings. -/
inductive Layer where
  | arguments
  | environment
  | assignments
  | record
  deriving DecidableEq, Repr

/-- The sources in the order in which they count. -/
def Layer.order : List Layer := [.arguments, .environment, .assignments, .record]

/-- What the sources hold. -/
structure Layers where
  arguments : List (String × Json)
  environment : Environment
  assignments : EnvValues
  record : List (String × Json)

/-- Whether a value is that of the last entry with a name, the case of letters in the names of
entries aside. -/
def LastNamed {α : Type} (entries : List (String × α)) (name : String) (value : α) : Prop :=
  ∃ before key after, entries = before ++ (key, value) :: after ∧ Text.toLower key = name ∧
    ∀ entry ∈ after, Text.toLower entry.1 ≠ name

/-- Whether a value is that of a member. One with the name itself goes before those whose names
differ from it in case. -/
def MemberNamed (members : List (String × Json)) (name : String) (value : Json) : Prop :=
  members.lookup name = some value ∨
    members.lookup name = none ∧ LastNamed members name value

namespace Layers

variable (layers : Layers)

/-- Whether a source gives a name a value. Texts are values also if they are empty; an assignment
without a value gives none. -/
def Gives (layer : Layer) (name : String) (value : Json) : Prop :=
  match layer with
  | .arguments => MemberNamed layers.arguments name value
  | .environment => ∃ text, LastNamed layers.environment name text ∧ value = .string text
  | .assignments => ∃ text, LastNamed layers.assignments name (some text) ∧ value = .string text
  | .record => MemberNamed layers.record name value

/-- Which value is selected for a name: that of the first source that gives it one, or none. -/
inductive Selects (name : String) : Option Json → Prop
  | first {before after : List Layer} {layer : Layer} {value : Json}
      (order : Layer.order = before ++ layer :: after) (gives : layers.Gives layer name value)
      (earlier : ∀ other ∈ before, ∀ value, ¬layers.Gives other name value) :
      Selects name (some value)
  | none (nowhere : ∀ layer value, ¬layers.Gives layer name value) : Selects name none

/-- A source in the form in which it is searched. -/
def source : Layer → Source
  | .arguments => .ofMembers layers.arguments
  | .environment => .ofTexts (layers.environment.map fun (name, value) => (name, some value))
  | .assignments => .ofTexts layers.assignments
  | .record => .ofMembers layers.record

def sources : List Source := Layer.order.map layers.source

/-- Reads the configuration from what the sources hold. -/
def load : Fields.Checked Configuration := Configuration.ofSources layers.sources

end Layers

/-! ## Entries by name -/

section Entries

variable {α β : Type} {entries : List (String × α)} {name : String}

theorem lookup_reverse_map (entries : List (String × α)) (change : α → β) {result : β} :
    (entries.map fun (key, value) => (Text.toLower key, change value)).reverse.lookup name =
        some result ↔
      ∃ value, LastNamed entries name value ∧ change value = result := by
  rw [List.lookup_eq_some_iff]
  constructor
  · rintro ⟨later, sooner, split, others⟩
    rw [List.reverse_eq_append_iff, List.reverse_cons, List.append_assoc, List.singleton_append,
      List.map_eq_append_iff] at split
    obtain ⟨before, rest, rfl, -, isRest⟩ := split
    obtain ⟨⟨key, value⟩, after, rfl, isEntry, isAfter⟩ := List.map_eq_cons_iff.mp isRest
    obtain ⟨isKey, isValue⟩ := Prod.mk.inj isEntry
    refine ⟨value, ⟨before, key, after, rfl, isKey, fun entry member same => ?_⟩, isValue⟩
    have isLater : (Text.toLower entry.1, change entry.2) ∈ later :=
      List.mem_reverse.mp (isAfter ▸ List.mem_map_of_mem (f := fun (key, value) =>
        (Text.toLower key, change value)) member)
    simpa [same] using others _ isLater
  · rintro ⟨value, ⟨before, key, after, rfl, isKey, others⟩, rfl⟩
    refine ⟨(after.map fun (key, value) => (Text.toLower key, change value)).reverse,
      (before.map fun (key, value) => (Text.toLower key, change value)).reverse, ?_, ?_⟩
    · simp [isKey]
    · rintro _ member
      obtain ⟨entry, isAfter, rfl⟩ := List.mem_map.mp (List.mem_reverse.mp member)
      simpa using (others entry isAfter).symm

theorem lookup_map {change : α → β} :
    (entries.map fun (key, value) => (key, change value)).lookup name =
      (entries.lookup name).map change := by
  induction entries with
  | nil =>
      rfl
  | cons entry rest inductionHypothesis =>
      obtain ⟨key, value⟩ := entry
      simp only [List.map_cons, List.lookup_cons, inductionHypothesis]
      cases name == key <;> rfl

end Entries

namespace Source

variable {name : String} {value : Json}

theorem find?_ofTexts {values : EnvValues} :
    (ofTexts values).find? name = some value ↔
      ∃ text, LastNamed values name (some text) ∧ value = .string text := by
  rw [find?, Option.join_eq_some_iff, ofTexts, lookup_reverse_map]
  constructor
  · rintro ⟨text?, last, isValue⟩
    obtain ⟨text, rfl, rfl⟩ := Option.map_eq_some_iff.mp isValue
    exact ⟨text, last, rfl⟩
  · rintro ⟨text, last, rfl⟩
    exact ⟨some text, last, rfl⟩

theorem find?_ofMembers {members : List (String × Json)} :
    (ofMembers members).find? name = some value ↔ MemberNamed members name value := by
  rw [find?, Option.join_eq_some_iff, ofMembers, List.lookup_append, lookup_map,
    Option.or_eq_some_iff, lookup_reverse_map, MemberNamed]
  simp

/-- A file with a record is a source as if its members were given, if it can be read. -/
theorem exists_ofMembers {text : Option String} {source : Source}
    (isRead : ofFile text = .ok source) : ∃ members, source = ofMembers members := by
  unfold ofFile at isRead
  split at isRead
  · exact ⟨[], (Except.ok.inj isRead).symm⟩
  · split at isRead
    · exact ⟨[], (Except.ok.inj isRead).symm⟩
    · split at isRead
      · cases isRead
      · next value _ =>
          cases members : membersOf value with
          | error fault =>
              simp [members, Except.map] at isRead
          | ok members' =>
              rw [members] at isRead
              exact ⟨members', (Except.ok.inj isRead).symm⟩

end Source

namespace Layers

variable {layers : Layers} {name : String} {value : Json}

theorem find?_source {layer : Layer} :
    (layers.source layer).find? name = some value ↔ layers.Gives layer name value := by
  cases layer with
  | arguments =>
      exact Source.find?_ofMembers
  | environment =>
      have entries : (layers.source .environment).entries =
          (layers.environment.map fun (key, text) =>
            (Text.toLower key, some (Json.string text))).reverse := by
        rw [source, Source.ofTexts, List.map_map]
        rfl
      rw [Source.find?, Option.join_eq_some_iff, entries,
        lookup_reverse_map layers.environment fun text => some (Json.string text)]
      simp only [Option.some.injEq, Gives, eq_comm]
  | assignments =>
      exact Source.find?_ofTexts
  | record =>
      exact Source.find?_ofMembers

theorem find?_source_eq_none {layer : Layer} :
    (layers.source layer).find? name = none ↔ ∀ value, ¬layers.Gives layer name value := by
  simp only [Option.eq_none_iff_forall_ne_some, ne_eq, find?_source]

theorem mem_order (layer : Layer) : layer ∈ Layer.order := by
  cases layer <;> decide

/-- What is selected is what is found by searching one source after the other. -/
theorem selects_iff {value? : Option Json} :
    layers.Selects name value? ↔ Source.select layers.sources name = value? := by
  have searched : Source.select layers.sources name =
      Layer.order.findSome? fun layer => (layers.source layer).find? name := by
    rw [Source.select, sources, List.findSome?_map]
    rfl
  rw [searched]
  constructor
  · rintro (⟨order, gives, earlier⟩ | nowhere)
    · exact List.findSome?_eq_some_iff.mpr ⟨_, _, _, order, find?_source.mpr gives,
        fun other member => find?_source_eq_none.mpr (earlier other member)⟩
    · exact List.findSome?_eq_none_iff.mpr fun layer _ =>
        find?_source_eq_none.mpr (nowhere layer)
  · rintro rfl
    cases found : Layer.order.findSome? fun layer => (layers.source layer).find? name with
    | none =>
        exact .none fun layer =>
          find?_source_eq_none.mp (List.findSome?_eq_none_iff.mp found layer (mem_order layer))
    | some value =>
        obtain ⟨before, layer, after, order, gives, earlier⟩ :=
          List.findSome?_eq_some_iff.mp found
        exact .first order (find?_source.mp gives) fun other member =>
          find?_source_eq_none.mp (earlier other member)

end Layers

/-! ## What a process finds -/

namespace Site

variable {site : Site} {arguments : List (String × Json)} {layers : Layers}

/-- Whether the sources of a process hold what a site and its arguments make of them. -/
structure Holds (site : Site) (arguments : List (String × Json)) (layers : Layers) : Prop where
  arguments : layers.arguments = arguments
  environment : layers.environment = site.environment
  assignments : layers.assignments = Expansion.resolve .file site.environment site.assignments
  record : Source.ofFile (site.file? site.recordPath) = .ok (.ofMembers layers.record)

theorem load_eq_ok {configuration : Configuration} :
    site.load arguments = .ok configuration ↔
      ∃ sources, site.sources arguments = .ok sources ∧
        Configuration.ofSources sources = .ok configuration := by
  rw [load]
  cases site.sources arguments with
  | error fault =>
      simp
  | ok sources =>
      simp only [Except.ok.injEq, exists_eq_left']
      cases Configuration.ofSources sources <;> simp

theorem Holds.sources (held : site.Holds arguments layers) :
    site.sources arguments = .ok layers.sources := by
  rw [Site.sources, held.record]
  simp only [Layers.sources, Layer.order, List.map_cons, List.map_nil, Layers.source,
    held.arguments, held.environment, held.assignments]
  rfl

theorem Holds.load_eq (held : site.Holds arguments layers) :
    site.load arguments = layers.load.mapError .fields := by
  rw [load, held.sources, Layers.load]
  simp only
  cases Configuration.ofSources layers.sources <;> rfl

/-- A process has sources, or its file with a record cannot be read. -/
theorem holds_or_unreadable (site : Site) (arguments : List (String × Json)) :
    (∃ layers, site.Holds arguments layers) ∨
      ∃ fault, site.load arguments = .error (.file fault) := by
  cases isRead : Source.ofFile (site.file? site.recordPath) with
  | error fault =>
      refine Or.inr ⟨fault, ?_⟩
      rw [load, Site.sources, isRead]
      rfl
  | ok source =>
      obtain ⟨record, rfl⟩ := Source.exists_ofMembers isRead
      exact Or.inl ⟨⟨arguments, _, _, record⟩, rfl, rfl, rfl, isRead⟩

end Site

end CertApproval.Settings
