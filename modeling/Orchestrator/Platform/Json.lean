import Mathlib.Data.Rat.Defs
import Mathlib.Data.Stream.Init
import Orchestrator.Lib.CString
import Orchestrator.Lib.Calls
import Orchestrator.Lib.Triple

/-!
# JSON trees and the calls that build them

A tree holds what the program reads of a `cJSON` item. Every call that creates
or adds an item allocates memory and may fail; the outcomes are a stream of
which each call takes the next one.
-/

namespace Orchestrator

open Lib

inductive Json
  | null
  | bool (b : Bool)
  | number (valuedouble : ℚ)
  | string (valuestring : CStr)
  | array (items : List Json)
  | object (members : List (CStr × Json))

/-- The bounds of `int`. -/
def intMin : Int := -2147483648
def intMax : Int := 2147483647

/-- The `valueint` of a number: truncated, and saturated at the bounds of `int`. -/
def valueint (q : ℚ) : Int :=
  if (intMax : ℚ) ≤ q then intMax
  else if q ≤ (intMin : ℚ) then intMin
  else q.num.tdiv q.den

/-- `tolower` in the C locale. -/
def toLower (b : UInt8) : UInt8 := if 65 ≤ b ∧ b ≤ 90 then b + 32 else b

namespace Json

/-- `cJSON_GetObjectItemCaseSensitive` -/
def getObjectItemCaseSensitive : Json → CStr → Option Json
  | object members, name => (members.find? fun m => m.1 = name).map Prod.snd
  | _, _ => none

/-- `cJSON_GetObjectItem`, which ignores the case of the names. -/
def getObjectItem : Json → CStr → Option Json
  | object members, name =>
      (members.find? fun m => m.1.bytes.map toLower = name.bytes.map toLower).map Prod.snd
  | _, _ => none

/-- `valuestring` of an item for which `cJSON_IsString` holds. -/
def string? : Option Json → Option CStr
  | some (string s) => some s
  | _ => none

/-- `valuedouble` of an item for which `cJSON_IsNumber` holds. -/
def number? : Option Json → Option ℚ
  | some (number q) => some q
  | _ => none

/-- The value of an item for which `cJSON_IsBool` holds. -/
def bool? : Option Json → Option Bool
  | some (bool b) => some b
  | _ => none

def isObject : Json → Bool
  | object _ => true
  | _ => false

/-- An item attached as the last member of an object. -/
def add : Json → CStr → Json → Json
  | object members, name, item => object (members ++ [(name, item)])
  | other, _, _ => other

/-- A predicate on every string of a tree, names included. -/
inductive AllStrings (P : CStr → Prop) : Json → Prop
  | null : AllStrings P null
  | bool (b : Bool) : AllStrings P (bool b)
  | number (q : ℚ) : AllStrings P (number q)
  | string {s : CStr} (h : P s) : AllStrings P (string s)
  | array {items : List Json} (h : ∀ item ∈ items, AllStrings P item) :
      AllStrings P (array items)
  | object {members : List (CStr × Json)} (hnames : ∀ m ∈ members, P m.1)
      (hitems : ∀ m ∈ members, AllStrings P m.2) : AllStrings P (object members)

theorem AllStrings.of_string {P : CStr → Prop} {s : CStr} (h : AllStrings P (.string s)) :
    P s := by
  cases h with
  | string hs => exact hs

/-- A predicate on all strings is one on the strings of any tree. -/
theorem allStrings_of_forall {P : CStr → Prop} (h : ∀ s, P s) : ∀ root : Json, root.AllStrings P
  | null => .null
  | bool b => .bool b
  | number q => .number q
  | string s => .string (h s)
  | array items => .array fun item _ => allStrings_of_forall h item
  | object members => .object (fun m _ => h m.1) fun m _ => allStrings_of_forall h m.2
termination_by root => sizeOf root
decreasing_by
  · have hlt := List.sizeOf_lt_of_mem ‹_ ∈ items›
    simp only [array.sizeOf_spec]
    omega
  · have hlt := List.sizeOf_lt_of_mem ‹_ ∈ members›
    obtain ⟨name, item⟩ := m
    simp only [object.sizeOf_spec, Prod.mk.sizeOf_spec] at hlt ⊢
    omega

theorem AllStrings.getObjectItem {P : CStr → Prop} {root item : Json} {name : CStr}
    (h : AllStrings P root) (hitem : root.getObjectItem name = some item) :
    AllStrings P item := by
  cases h with
  | object hnames hitems =>
      obtain ⟨m, hm, rfl⟩ := Option.map_eq_some_iff.mp hitem
      exact hitems m (List.mem_of_find?_eq_some hm)
  | null | bool b | number q | string hs | array hi => cases hitem

theorem AllStrings.getObjectItemCaseSensitive {P : CStr → Prop} {root item : Json}
    {name : CStr} (h : AllStrings P root)
    (hitem : root.getObjectItemCaseSensitive name = some item) : AllStrings P item := by
  cases h with
  | object hnames hitems =>
      obtain ⟨m, hm, rfl⟩ := Option.map_eq_some_iff.mp hitem
      exact hitems m (List.mem_of_find?_eq_some hm)
  | null | bool b | number q | string hs | array hi => cases hitem

end Json

/-! ## Allocation -/

/-- Computations that allocate; `true` is an allocation that succeeds. -/
abbrev Alloc := StateM (Stream' Bool)

/-- Every allocation succeeds. -/
def allSucceed : Stream' Bool := Stream'.const true

namespace Alloc

variable {α β : Type}

/-- The outcome of the next allocation. -/
def next : Alloc Bool := modifyGet fun outcomes => (outcomes.head, outcomes.tail)

theorem next_eq (outcomes : Stream' Bool) : next outcomes = (outcomes.head, outcomes.tail) := rfl

theorem run_bind (m : Alloc α) (f : α → Alloc β) (outcomes : Stream' Bool) :
    (m >>= f) outcomes = f (m outcomes).1 (m outcomes).2 := rfl

/-- The result satisfies `P` whatever the allocations do, and what is known of
all of them is still known of those to come. -/
def Always (m : Alloc α) (P : α → Prop) : Prop :=
  ∀ A : Stream' Bool → Prop, (∀ s, A s → A s.tail) → Keeps A m P

/-- The result when every allocation succeeds. -/
abbrev Yields (m : Alloc α) (a : α) : Prop := Keeps (fun s => s = allSucceed) m fun r => r = a

theorem next_always : next.Always fun _ => True := fun _ hA s hs => ⟨hA s hs, trivial⟩

theorem next_yields : next.Yields true := by
  rintro s rfl
  exact ⟨Stream'.tail_const true, rfl⟩

theorem Yields.eq {m : Alloc α} {a : α} (h : m.Yields a) : m allSucceed = (a, allSucceed) :=
  Prod.ext (h _ rfl).2 (h _ rfl).1

end Alloc

/-! ## Building objects -/

open Alloc

/-- `cJSON_CreateObject` -/
def cJSONCreateObject : Alloc (Option Json) := do
  if ← next then return some (.object []) else return none

/-- `cJSON_AddStringToObject` and its kin create the item and attach it; the item
is left out when an allocation fails. The result says whether it was attached. -/
def addField (object : Json) (name : CStr) (item : Json) : Alloc (Bool × Json) := do
  if ← next then return (true, object.add name item) else return (false, object)

/-- A sequence of additions whose results are ignored. -/
def addFields (object : Json) : List (CStr × Json) → Alloc Json
  | [] => return object
  | (name, item) :: fields => do
      let added ← addField object name item
      addFields added.2 fields

/-- `cJSON_AddObjectToObject` followed by additions to the new object. When it
fails there is no new object and the additions attach nothing. -/
def addObjectToObject (object : Json) (name : CStr) (fields : List (CStr × Json)) :
    Alloc Json := do
  let attached ← next
  let child ← addFields (.object []) fields
  return if attached then object.add name child else object

/-- A new object with these fields, or null. -/
def createObject (fields : List (CStr × Json)) : Alloc (Option Json) := do
  match ← cJSONCreateObject with
  | none => return none
  | some out => return some (← addFields out fields)

/-! ### Without failures -/

theorem addField_yields (members : List (CStr × Json)) (name : CStr) (item : Json) :
    (addField (.object members) name item).Yields
      (true, .object (members ++ [(name, item)])) := by
  apply Keeps.bind next_yields
  rintro _ rfl
  exact Keeps.pure rfl

/-- With memory to spare the fields end up in the object in their order. -/
theorem addFields_yields (members fields : List (CStr × Json)) :
    (addFields (.object members) fields).Yields (.object (members ++ fields)) := by
  induction fields generalizing members with
  | nil => exact Keeps.pure (by rw [List.append_nil])
  | cons field fields ih =>
      apply Keeps.bind (addField_yields members field.1 field.2)
      rintro _ rfl
      have hrest := ih (members ++ [field])
      rwa [List.append_assoc] at hrest

theorem addObjectToObject_yields (members : List (CStr × Json)) (name : CStr)
    (fields : List (CStr × Json)) :
    (addObjectToObject (.object members) name fields).Yields
      (.object (members ++ [(name, .object fields)])) := by
  apply Keeps.bind next_yields
  rintro _ rfl
  apply Keeps.bind (addFields_yields [] fields)
  rintro _ rfl
  exact Keeps.pure rfl

theorem cJSONCreateObject_yields : cJSONCreateObject.Yields (some (.object [])) := by
  apply Keeps.bind next_yields
  rintro _ rfl
  exact Keeps.pure rfl

theorem createObject_yields (fields : List (CStr × Json)) :
    (createObject fields).Yields (some (.object fields)) := by
  apply Keeps.bind cJSONCreateObject_yields
  rintro _ rfl
  apply Keeps.bind (addFields_yields [] fields)
  rintro _ rfl
  exact Keeps.pure rfl

/-! ### With failures -/

/-- With failures only some of the members are added. -/
theorem addFields_run (members fields : List (CStr × Json)) (outcomes : Stream' Bool) :
    addFields (.object members) fields outcomes =
      (.object (members ++ kept fields outcomes), outcomes.drop fields.length) := by
  induction fields generalizing members outcomes with
  | nil =>
      rw [kept, List.append_nil]
      rfl
  | cons field fields ih =>
      obtain ⟨name, item⟩ := field
      rw [addFields, run_bind, addField, run_bind, next_eq, kept]
      cases outcomes.head with
      | true =>
          show addFields (.object (members ++ [(name, item)])) fields outcomes.tail = _
          rw [ih, List.append_assoc]
          rfl
      | false =>
          show addFields (.object members) fields outcomes.tail = _
          rw [ih]
          rfl

theorem cJSONCreateObject_run (outcomes : Stream' Bool) :
    cJSONCreateObject outcomes =
      (if outcomes.head then some (.object []) else none, outcomes.tail) := by
  rw [cJSONCreateObject, run_bind, next_eq]
  cases outcomes.head <;> rfl

theorem createObject_run (fields : List (CStr × Json)) (outcomes : Stream' Bool) :
    createObject fields outcomes =
      if outcomes.head then
        (some (.object (kept fields outcomes.tail)), outcomes.tail.drop fields.length)
      else (none, outcomes.tail) := by
  rw [createObject, run_bind, cJSONCreateObject_run]
  cases outcomes.head with
  | false => rfl
  | true =>
      simp only [if_true, run_bind, addFields_run]
      rfl

/-- What every object that is being built satisfies, whatever is left out of it. -/
structure Built (P : CStr → Prop) (out : Json) : Prop where
  isObject : out.isObject = true
  strings : out.AllStrings P

/-- Every name and every string of these fields satisfies the predicate. -/
def FieldStrings (P : CStr → Prop) (fields : List (CStr × Json)) : Prop :=
  ∀ field ∈ fields, P field.1 ∧ field.2.AllStrings P

variable {P : CStr → Prop}

/-- What the predicate is asked about the texts of the program itself. -/
structure Texts (P : CStr → Prop) : Prop where
  lit : ∀ s : String, P (CStr.lit s)
  /-- Decimal numbers, also where a buffer cuts them. -/
  take_decimal : ∀ n k : Nat, P ((CStr.decimal n).take k)
  append : ∀ s t : CStr, P s → P t → P (s ++ t)

theorem texts_true : Texts fun _ => True where
  lit _ := trivial
  take_decimal _ _ := trivial
  append _ _ _ _ := trivial

theorem Texts.decimal (h : Texts P) (n : Nat) : P (CStr.decimal n) := by
  have hcut := h.take_decimal n (CStr.decimal n).length
  rwa [CStr.take_eq_self (Nat.le_refl _)] at hcut

theorem FieldStrings.of_forall (h : ∀ s, P s) (fields : List (CStr × Json)) :
    FieldStrings P fields :=
  fun field _ => ⟨h field.1, Json.allStrings_of_forall h field.2⟩

theorem FieldStrings.nil : FieldStrings P [] := fun _ h => absurd h List.not_mem_nil

theorem FieldStrings.cons {name : CStr} {item : Json} {fields : List (CStr × Json)}
    (hname : P name) (hitem : item.AllStrings P) (h : FieldStrings P fields) :
    FieldStrings P ((name, item) :: fields) := by
  intro field hfield
  rcases List.mem_cons.mp hfield with rfl | hfield
  · exact ⟨hname, hitem⟩
  · exact h field hfield

theorem FieldStrings.append {front back : List (CStr × Json)} (hfront : FieldStrings P front)
    (hback : FieldStrings P back) : FieldStrings P (front ++ back) := by
  intro field hfield
  rcases List.mem_append.mp hfield with hfield | hfield
  · exact hfront field hfield
  · exact hback field hfield

theorem FieldStrings.object {fields : List (CStr × Json)} (h : FieldStrings P fields) :
    (Json.object fields).AllStrings P :=
  .object (fun field hfield => (h field hfield).1) fun field hfield => (h field hfield).2

theorem Json.AllStrings.empty : (Json.array []).AllStrings P :=
  .array fun _ h => absurd h List.not_mem_nil

theorem Built.empty : Built P (.object []) where
  isObject := rfl
  strings := .object (fun _ h => absurd h List.not_mem_nil) fun _ h => absurd h List.not_mem_nil

theorem Built.add {object item : Json} {name : CStr} (h : Built P object) (hname : P name)
    (hitem : item.AllStrings P) : Built P (object.add name item) := by
  obtain ⟨hobject, hstrings⟩ := h
  cases hstrings with
  | object hnames hitems =>
      constructor
      · rfl
      apply Json.AllStrings.object
      · intro m hm
        rcases List.mem_append.mp hm with hm | hm
        · exact hnames m hm
        · exact List.mem_singleton.mp hm ▸ hname
      · intro m hm
        rcases List.mem_append.mp hm with hm | hm
        · exact hitems m hm
        · exact List.mem_singleton.mp hm ▸ hitem
  | null | bool b | number q | string hs | array hi => cases hobject

theorem addField_built {object item : Json} {name : CStr} (h : Built P object) (hname : P name)
    (hitem : item.AllStrings P) :
    (addField object name item).Always fun added => Built P added.2 := by
  intro A hA
  apply Keeps.bind (next_always A hA)
  rintro ok -
  cases ok with
  | true => exact Keeps.pure (h.add hname hitem)
  | false => exact Keeps.pure h

theorem addFields_built {object : Json} {fields : List (CStr × Json)} (h : Built P object)
    (hfields : FieldStrings P fields) : (addFields object fields).Always (Built P) := by
  intro A hA
  induction fields generalizing object with
  | nil => exact Keeps.pure h
  | cons field fields ih =>
      obtain ⟨hname, hitem⟩ := hfields field List.mem_cons_self
      have hrest : FieldStrings P fields := fun f hf => hfields f (List.mem_cons_of_mem _ hf)
      apply Keeps.bind (addField_built h hname hitem A hA)
      exact fun added hadded => ih hadded hrest

theorem addObjectToObject_built {object : Json} {name : CStr} {fields : List (CStr × Json)}
    (h : Built P object) (hname : P name) (hfields : FieldStrings P fields) :
    (addObjectToObject object name fields).Always (Built P) := by
  intro A hA
  apply Keeps.bind (next_always A hA)
  rintro attached -
  apply Keeps.bind (addFields_built Built.empty hfields A hA)
  intro child hchild
  cases attached with
  | true => exact Keeps.pure (h.add hname hchild.strings)
  | false => exact Keeps.pure h

theorem cJSONCreateObject_built :
    cJSONCreateObject.Always fun out => ∀ o ∈ out, Built P o := by
  intro A hA
  apply Keeps.bind (next_always A hA)
  rintro ok -
  cases ok with
  | true =>
      apply Keeps.pure
      rintro o ⟨⟩
      exact Built.empty
  | false =>
      apply Keeps.pure
      rintro o ⟨⟩

theorem createObject_built {fields : List (CStr × Json)} (hfields : FieldStrings P fields) :
    (createObject fields).Always fun out => ∀ o ∈ out, Built P o := by
  intro A hA
  apply Keeps.bind (cJSONCreateObject_built A hA)
  rintro (- | object) hobject
  · apply Keeps.pure
    rintro o ⟨⟩
  · apply Keeps.bind (addFields_built (hobject object rfl) hfields A hA)
    intro out hout
    apply Keeps.pure
    rintro o ⟨⟩
    exact hout

/-- `cJSON_PrintUnformatted`; the text is represented by the tree it shows. -/
def cJSONPrintUnformatted (root : Json) : Alloc (Option Json) := do
  if ← next then return some root else return none

theorem cJSONPrintUnformatted_yields (root : Json) :
    (cJSONPrintUnformatted root).Yields (some root) := by
  apply Keeps.bind next_yields
  rintro _ rfl
  exact Keeps.pure rfl

theorem cJSONPrintUnformatted_always {Q : Json → Prop} {root : Json} (h : Q root) :
    (cJSONPrintUnformatted root).Always fun text => ∀ t ∈ text, Q t := by
  intro A hA
  apply Keeps.bind (next_always A hA)
  rintro ok -
  cases ok with
  | true =>
      apply Keeps.pure
      rintro t ⟨⟩
      exact h
  | false =>
      apply Keeps.pure
      rintro t ⟨⟩

end Orchestrator
