import Mathlib.Data.List.AList
import Mathlib.Data.List.Perm.Basic
import UptimeFlow.JsonWriting
import UptimeFlow.Monitoring.Schema
import UptimeFlow.Overwrites

/-!
# UptimeFlow.Organizations.Settings

The settings of an organization: three columns, and a text of JSON.

An update reads the row, sets the fields it names in what the text holds, and
writes the text back whole.  Reading and writing are two statements, with those
of other updates between them at will.  To the outside a row is a record of
columns, one for each key of the text (`OrgRow.view`), and an update should
overwrite those it names.  It does as long as, for every other key, it writes
back the value that is there (`asSerial_run`).

What JSON makes of a text is a parameter; the order of the keys of an object is
not kept.  The audit log, written last, is left out.
-/

namespace UptimeFlow.Organizations

open Overwrites Runs
open Monitoring (ProbeRegion Instant OrganizationId)

/-! ## JSON -/

/-- What a text of JSON holds: an object, an array, or a value that is neither. -/
inductive Document (ν : Type) where
  | object (fields : AList fun _ : String => ν)
  | array (items : List ν)
  | scalar (value : ν)

/-- `meta.key`, where it is there. -/
def Document.get {ν : Type} (d : Document ν) (key : String) : Option ν :=
  match d with
  | .object fields => fields.lookup key
  | .array _ | .scalar _ => none

/-- `meta.key = value`, as far as `JSON.stringify` sees it: of an array it writes the items. -/
def Document.set {ν : Type} (d : Document ν) (key : String) (value : ν) : Document ν :=
  match d with
  | .object fields => .object (fields.insert key value)
  | d => d

/-- The items, of an array. -/
def Document.items {ν : Type} : Document ν → Option (List ν)
  | .array items => some items
  | .object _ | .scalar _ => none

/-- The language, over the values an object may hold. -/
structure Host (ν : Type) where
  /-- `JSON.parse`, or `none` where it throws. -/
  parse : String → Option (Document ν)
  /-- `JSON.stringify`. -/
  stringify : Document ν → String
  null : ν
  isNull : ν → Bool
  string : String → ν
  /-- What a value is once it is written and read: `-0` is 0, and what is not finite is `null`. -/
  normal : ν → ν

/-- What a text is read as that was written from an object or an array. -/
structure Lawful {ν : Type} (js : Host ν) : Prop where
  parse_empty : js.parse "" = none
  parse_object : ∀ fields, ∃ fields', js.parse (js.stringify (.object fields)) =
    some (.object fields') ∧ ∀ key, fields'.lookup key = (fields.lookup key).map js.normal
  parse_array : ∀ items,
    js.parse (js.stringify (.array items)) = some (.array (items.map js.normal))
  normal_null : js.normal js.null = js.null
  normal_string : ∀ s, js.normal (js.string s) = js.string s
  normal_normal : ∀ v, js.normal (js.normal v) = js.normal v

/-! ## the JSON of the language -/

section
open JsonText (Value)

/-- Of several members with one key the last counts. -/
def ofMembers (members : List (List Char × Value)) : AList fun _ : String => Value :=
  members.foldl (fun fields m => fields.insert (String.ofList m.1) m.2) ∅

def toDocument : Value → Document Value
  | .object members => .object (ofMembers members)
  | .array items => .array items
  | v => .scalar v

def ofDocument : Document Value → Value
  | .object fields => .object (fields.entries.map fun e => (e.1.toList, e.2))
  | .array items => .array items
  | .scalar v => v

/-- `JSON`, with numbers as the digits they are written with. -/
def json : Host Value where
  parse text := (JsonText.parse text.toList).map toDocument
  stringify d := String.ofList (ofDocument d).write
  null := .null
  isNull
    | .null => true
    | _ => false
  string s := .string s.toList
  normal := Value.normal

theorem lookup_foldl_insert {es : List (Σ _ : String, Value)} (hnodup : es.NodupKeys)
    (acc : AList fun _ : String => Value) (key : String) :
    (es.foldl (fun fields e => fields.insert e.1 e.2) acc).lookup key =
      (es.dlookup key).or (acc.lookup key) := by
  induction es generalizing acc with
  | nil => rfl
  | cons e es ih =>
      obtain ⟨hfresh, hnodup⟩ := List.nodupKeys_cons.1 hnodup
      rw [List.foldl_cons, ih hnodup]
      by_cases hkey : key = e.1
      · subst hkey
        rw [AList.lookup_insert, List.dlookup_eq_none.2 hfresh, List.dlookup_cons_eq]
        rfl
      · rw [AList.lookup_insert_ne hkey, List.dlookup_cons_ne _ _ hkey]

theorem lookup_ofMembers (fields : AList fun _ : String => Value) (f : Value → Value)
    (key : String) :
    (ofMembers (fields.entries.map fun e => (e.1.toList, f e.2))).lookup key =
      (fields.lookup key).map f := by
  have hfold : ofMembers (fields.entries.map fun e => (e.1.toList, f e.2)) =
      (fields.entries.map (Sigma.map id fun _ => f) : List (Σ _ : String, Value)).foldl
        (fun fields e => fields.insert e.1 e.2) ∅ := by
    rw [ofMembers, List.foldl_map, List.foldl_map]
    simp [Sigma.map]
  rw [hfold, lookup_foldl_insert (fields.nodupKeys.map₂ _), List.dlookup_map₂, AList.lookup_empty,
    Option.or_none]
  rfl

theorem lawful_json : Lawful json where
  parse_empty := rfl
  parse_object fields := by
    refine ⟨ofMembers (fields.entries.map fun e => (e.1.toList, e.2.normal)), ?_, fun key => ?_⟩
    · simp [json, ofDocument, JsonText.parse_write, Value.normal, JsonText.normalMembers_eq_map,
        toDocument, Function.comp_def]
    · exact lookup_ofMembers fields Value.normal key
  parse_array items := by
    simp [json, ofDocument, JsonText.parse_write, Value.normal, JsonText.normalItems_eq_map,
      toDocument]
  normal_null := rfl
  normal_string _ := rfl
  normal_normal := Value.normal_normal

end

/-! ## rows -/

structure OrgRow where
  id : OrganizationId
  name : String
  slug : String
  logo : Option String
  metadata : Option String
  createdAt : Instant
deriving DecidableEq, Repr

structure OrgSettings (ν : Type) where
  id : OrganizationId
  name : String
  slug : String
  logo : Option String
  timezone : Option ν
  billingContact : Option ν
  defaultRegion : Option ν
  defaultAlertPolicyId : Option ν
  createdAt : Instant

/-- A field that is absent is left as it is; one that is `null` is cleared. -/
structure OrgSettingsUpdate where
  name : Option String := none
  slug : Option String := none
  logo : Option (Option String) := none
  timezone : Option (Option String) := none
  billingContact : Option (Option String) := none
  defaultRegion : Option (Option ProbeRegion) := none
  defaultAlertPolicyId : Option (Option String) := none
deriving DecidableEq, Repr

/-- The text of a region. -/
def regionText : ProbeRegion → String
  | .naEast => "NA_EAST"
  | .naWest => "NA_WEST"
  | .euWest => "EU_WEST"
  | .euCentral => "EU_CENTRAL"
  | .apSoutheast => "AP_SOUTHEAST"
  | .apNortheast => "AP_NORTHEAST"
  | .saEast => "SA_EAST"
  | .afSouth => "AF_SOUTH"

section
variable {ν : Type} (js : Host ν)

def parseMetadata (raw : Option String) : Document ν :=
  match raw with
  | none | some "" => .object ∅
  | some text =>
      match js.parse text with
      | none | some (.scalar _) => .object ∅
      | some d => d

/-- `meta.key ?? null`. -/
def orNull (value : Option ν) : Option ν := value.filter fun v => !js.isNull v

def toSettings (row : OrgRow) : OrgSettings ν :=
  let bag := parseMetadata js row.metadata
  { id := row.id
    name := row.name
    slug := row.slug
    logo := row.logo
    timezone := orNull js (bag.get "timezone")
    billingContact := orNull js (bag.get "billingContact")
    defaultRegion := orNull js (bag.get "defaultRegion")
    defaultAlertPolicyId := orNull js (bag.get "defaultAlertPolicyId")
    createdAt := row.createdAt }

/-! ## update -/

/-- The keys of the text an update names, and what it sets them to. -/
def OrgSettingsUpdate.fields (input : OrgSettingsUpdate) : List (String × Option (Option String)) :=
  [("timezone", input.timezone),
    ("billingContact", input.billingContact),
    ("defaultRegion", input.defaultRegion.map (Option.map regionText)),
    ("defaultAlertPolicyId", input.defaultAlertPolicyId)]

def jsonValue (value : Option String) : ν := (value.map js.string).getD js.null

/-- `if (value !== undefined) meta.key = value`. -/
def setGiven (d : Document ν) (field : String × Option (Option String)) : Document ν :=
  match field.2 with
  | none => d
  | some value => d.set field.1 (jsonValue js value)

def merge (d : Document ν) (input : OrgSettingsUpdate) : Document ν :=
  input.fields.foldl (setGiven js) d

/-- The second statement of an update, for the text it read with the first. -/
def written (read : Option String) (input : OrgSettingsUpdate) (row : OrgRow) : OrgRow :=
  { row with
    name := input.name.getD row.name
    slug := input.slug.getD row.slug
    logo := input.logo.getD row.logo
    metadata := some (js.stringify (merge js (parseMetadata js read) input)) }

/-- An update on its own. -/
def update (row : OrgRow) (input : OrgSettingsUpdate) : OrgRow := written js row.metadata input row

/-! ## updates side by side -/

/-- An update that has read the row. -/
structure Reading where
  input : OrgSettingsUpdate
  read : Option String
deriving DecidableEq, Repr

/-- The row and the updates on their way, with those that have written, in order. -/
structure Updates where
  row : OrgRow
  pending : List Reading := []
  order : List OrgSettingsUpdate := []
deriving DecidableEq, Repr

inductive Step where
  | read (input : OrgSettingsUpdate)
  /-- The `k`-th of the updates on their way writes. -/
  | write (k : Nat)
deriving DecidableEq, Repr

def Updates.step (s : Updates) : Step → Updates
  | .read input => { s with pending := s.pending ++ [⟨input, s.row.metadata⟩] }
  | .write k =>
      match s.pending[k]? with
      | none => s
      | some r =>
          { row := written js r.read r.input s.row
            pending := s.pending.eraseIdx k
            order := s.order ++ [r.input] }

end

/-- The updates that start in a run. -/
def started (steps : List Step) : List OrgSettingsUpdate :=
  steps.filterMap fun
    | .read input => some input
    | .write _ => none

/-! ## rows as columns -/

/-- The columns of the settings, with one for each key of the text and one for its items. -/
inductive Column where
  | id | name | slug | logo | createdAt
  | items
  | key (k : String)
deriving DecidableEq, Repr

def Column.Value (ν : Type) : Column → Type
  | .id => OrganizationId
  | .name | .slug => String
  | .logo => Option String
  | .createdAt => Instant
  | .items => Option (List ν)
  | .key _ => Option ν

section
variable {ν : Type} (js : Host ν)

def OrgRow.view (row : OrgRow) : (c : Column) → c.Value ν
  | .id => row.id
  | .name => row.name
  | .slug => row.slug
  | .logo => row.logo
  | .createdAt => row.createdAt
  | .items => (parseMetadata js row.metadata).items
  | .key k => (parseMetadata js row.metadata).get k

/-- What an update sets a key to, if it names it. -/
def OrgSettingsUpdate.given (input : OrgSettingsUpdate) (k : String) : Option (Option String) :=
  (input.fields.lookup k).join

/-- The columns an update names. -/
def OrgSettingsUpdate.names (input : OrgSettingsUpdate) : Write (Column.Value ν)
  | .id | .createdAt | .items => none
  | .name => input.name
  | .slug => input.slug
  | .logo => input.logo
  | .key k => (input.given k).map fun value => some (jsonValue js value)

/-- Of every key the update does not name, it writes back what is there. -/
structure WritesBack (r : Reading) (row : OrgRow) : Prop where
  items : (parseMetadata js r.read).items.map (List.map js.normal) =
    (parseMetadata js row.metadata).items
  array : (parseMetadata js r.read).items ≠ none → ∀ k, r.input.given k = none
  others : ∀ k, r.input.given k = none →
    ((parseMetadata js r.read).get k).map js.normal = (parseMetadata js row.metadata).get k

/-- The condition on a step: an update that writes loses nothing. -/
def LosesNothing (s : Updates) : Step → Prop
  | .read _ => True
  | .write k => ∀ r ∈ s.pending[k]?, WritesBack js r s.row

/-! ## one write -/

variable {js}

variable (js) in
theorem parseMetadata_cases (raw : Option String) :
    (∃ fields, parseMetadata js raw = .object fields) ∨
      ∃ items, parseMetadata js raw = .array items := by
  unfold parseMetadata
  split
  · exact .inl ⟨_, rfl⟩
  · exact .inl ⟨_, rfl⟩
  · next text _ =>
    cases js.parse text with
    | none => exact .inl ⟨_, rfl⟩
    | some d =>
        cases d with
        | object fields => exact .inl ⟨fields, rfl⟩
        | array items => exact .inr ⟨items, rfl⟩
        | scalar value => exact .inl ⟨_, rfl⟩

/-- A text that holds an object or an array is read as that. -/
theorem parseMetadata_some {text : String} {d : Document ν} (hempty : js.parse "" = none)
    (htext : js.parse text = some d) (hd : ∀ value, d ≠ .scalar value) :
    parseMetadata js (some text) = d := by
  have hne : text ≠ "" := by
    rintro rfl
    rw [hempty] at htext
    cases htext
  unfold parseMetadata
  split
  · next h => cases h
  · next h => exact absurd (Option.some.inj h) hne
  · next text' _ h =>
    obtain rfl := Option.some.inj h
    rw [htext]
    cases d with
    | object fields => rfl
    | array items => rfl
    | scalar value => exact absurd rfl (hd value)

variable (js) in
/-- What setting given keys of an object leaves. -/
theorem foldl_setGiven {given : List (String × Option (Option String))}
    (hnodup : (given.map Prod.fst).Nodup) (fields : AList fun _ : String => ν) :
    ∃ fields', given.foldl (setGiven js) (.object fields) = .object fields' ∧
      ∀ k, fields'.lookup k =
        (((given.lookup k).join).map (jsonValue js)).or (fields.lookup k) := by
  induction given generalizing fields with
  | nil => exact ⟨fields, rfl, fun k => rfl⟩
  | cons g given ih =>
      obtain ⟨key, value⟩ := g
      obtain ⟨hfresh, hnodup⟩ := List.nodup_cons.1 hnodup
      have hnone : given.lookup key = none := by
        rw [List.lookup_eq_none_iff]
        rintro ⟨k, v⟩ hmem
        exact bne_iff_ne.2 fun he => hfresh (List.mem_map.2 ⟨_, hmem, he.symm⟩)
      have hfirst : ∃ fields₁, setGiven js (.object fields) (key, value) = .object fields₁ ∧
          (∀ k, k ≠ key → fields₁.lookup k = fields.lookup k) ∧
          fields₁.lookup key = (value.map (jsonValue js)).or (fields.lookup key) := by
        cases value with
        | none => exact ⟨fields, rfl, fun _ _ => rfl, rfl⟩
        | some v =>
            exact ⟨fields.insert key (jsonValue js v), rfl,
              fun k hk => AList.lookup_insert_ne hk, AList.lookup_insert fields⟩
      obtain ⟨fields₁, hset, hothers, hkey⟩ := hfirst
      obtain ⟨fields', hfold, hlookup⟩ := ih hnodup fields₁
      refine ⟨fields', ?_, fun k => ?_⟩
      · rw [List.foldl_cons, hset, hfold]
      · rw [hlookup k, List.lookup_cons]
        by_cases hk : k = key
        · subst hk
          rw [hnone, beq_self_eq_true, hkey]
          rfl
        · rw [beq_false_of_ne hk, hothers k hk]

theorem foldl_setGiven_array (given : List (String × Option (Option String))) (items : List ν) :
    given.foldl (setGiven js) (.array items) = .array items := by
  induction given with
  | nil => rfl
  | cons g given ih =>
      have hset : setGiven js (.array items) g = .array items := by
        unfold setGiven
        cases g.2 with
        | none => rfl
        | some value => rfl
      rw [List.foldl_cons, hset, ih]

theorem normal_jsonValue (hjs : Lawful js) (value : Option String) :
    js.normal (jsonValue js value) = jsonValue js value := by
  cases value with
  | none => exact hjs.normal_null
  | some text => exact hjs.normal_string text

/-- The text after an update that read an object. -/
theorem parseMetadata_written_object (hjs : Lawful js) {read : Option String}
    {fields : AList fun _ : String => ν} (hread : parseMetadata js read = .object fields)
    (input : OrgSettingsUpdate) (row : OrgRow) :
    ∃ fields', parseMetadata js (written js read input row).metadata = .object fields' ∧
      ∀ k, fields'.lookup k =
        ((input.given k).map (jsonValue js)).or ((fields.lookup k).map js.normal) := by
  have hnodup : (input.fields.map Prod.fst).Nodup := by
    change ["timezone", "billingContact", "defaultRegion", "defaultAlertPolicyId"].Nodup
    decide
  obtain ⟨merged, hmerge, hlookup⟩ := foldl_setGiven js hnodup fields
  obtain ⟨fields', hparse, hnormal⟩ := hjs.parse_object merged
  refine ⟨fields', ?_, fun k => ?_⟩
  · rw [written, hread, merge, hmerge]
    exact parseMetadata_some hjs.parse_empty hparse nofun
  · rw [hnormal k, hlookup k, OrgSettingsUpdate.given]
    cases (input.fields.lookup k).join with
    | none => rfl
    | some value => exact congrArg some (normal_jsonValue hjs value)

/-- An array stays one, and takes nothing. -/
theorem parseMetadata_written_array (hjs : Lawful js) {read : Option String} {items : List ν}
    (hread : parseMetadata js read = .array items) (input : OrgSettingsUpdate) (row : OrgRow) :
    parseMetadata js (written js read input row).metadata = .array (items.map js.normal) := by
  rw [written, hread, merge, foldl_setGiven_array]
  exact parseMetadata_some hjs.parse_empty (hjs.parse_array items) nofun

theorem items_written (hjs : Lawful js) (read : Option String) (input : OrgSettingsUpdate)
    (row : OrgRow) :
    (parseMetadata js (written js read input row).metadata).items =
      (parseMetadata js read).items.map (List.map js.normal) := by
  obtain ⟨fields, hread⟩ | ⟨items, hread⟩ := parseMetadata_cases js read
  · obtain ⟨fields', hwritten, -⟩ := parseMetadata_written_object hjs hread input row
    rw [hwritten, hread]
    rfl
  · rw [parseMetadata_written_array hjs hread, hread]
    rfl

theorem get_written (hjs : Lawful js) {r : Reading} {row : OrgRow} (h : WritesBack js r row)
    (k : String) :
    (parseMetadata js (written js r.read r.input row).metadata).get k =
      ((r.input.given k).map (jsonValue js)).or ((parseMetadata js row.metadata).get k) := by
  obtain ⟨fields, hread⟩ | ⟨items, hread⟩ := parseMetadata_cases js r.read
  · obtain ⟨fields', hwritten, hlookup⟩ := parseMetadata_written_object hjs hread r.input row
    have hget : (Document.object fields').get k = fields'.lookup k := rfl
    rw [hwritten, hget, hlookup k]
    cases hgiven : r.input.given k with
    | some value => rfl
    | none =>
        have hothers := h.others k hgiven
        rw [hread] at hothers
        exact hothers
  · have hnone : r.input.given k = none := h.array (by rw [hread]; nofun) k
    have hothers := h.others k hnone
    rw [hread] at hothers
    rw [parseMetadata_written_array hjs hread, hnone]
    exact hothers

/-- **A write that loses nothing** overwrites the columns its update names. -/
theorem view_written (hjs : Lawful js) {r : Reading} {row : OrgRow} (h : WritesBack js r row) :
    (written js r.read r.input row).view js = (r.input.names js).apply (row.view js) := by
  funext c
  cases c with
  | id | name | slug | logo | createdAt => rfl
  | items => exact (items_written hjs r.read r.input row).trans h.items
  | key k =>
      refine (get_written hjs h k).trans ?_
      change _ = ((r.input.given k).map fun value => some (jsonValue js value)).getD
        ((parseMetadata js row.metadata).get k)
      cases r.input.given k with
      | none => rfl
      | some value => rfl

/-- Where a row shows the same, an update on its own loses nothing either. -/
theorem WritesBack.alone (hjs : Lawful js) {r : Reading} {row row' : OrgRow}
    (h : WritesBack js r row) (hview : row'.view js = row.view js) :
    WritesBack js ⟨r.input, row'.metadata⟩ row' := by
  have hitems : (parseMetadata js row'.metadata).items = (parseMetadata js row.metadata).items :=
    congrFun hview .items
  have hkey : ∀ k, (parseMetadata js row'.metadata).get k = (parseMetadata js row.metadata).get k :=
    fun k => congrFun hview (.key k)
  constructor
  · rw [hitems, ← h.items, Option.map_map, List.map_comp_map]
    congr 2
    exact funext hjs.normal_normal
  · intro harray
    rw [hitems, ← h.items] at harray
    exact h.array fun hnone => harray (by rw [hnone]; rfl)
  · intro k hgiven
    rw [hkey, ← h.others k hgiven, Option.map_map]
    congr 1
    exact funext hjs.normal_normal

/-! ## runs -/

/-- The row shows what the updates that have written leave of it, and what they leave of it one
after the other. -/
structure Simulates (js : Host ν) (row : OrgRow) (s : Updates) : Prop where
  view : s.row.view js =
    run (overwrite fun input : OrgSettingsUpdate => input.names js) (row.view js) s.order
  alone : (run (update js) row s.order).view js = s.row.view js

theorem Simulates.step (hjs : Lawful js) {row : OrgRow} {s : Updates} (h : Simulates js row s)
    {step : Step} (hstep : LosesNothing js s step) : Simulates js row (s.step js step) := by
  cases step with
  | read input => exact ⟨h.view, h.alone⟩
  | write k =>
      rw [Updates.step]
      cases hr : s.pending[k]? with
      | none => exact h
      | some r =>
          have hback : WritesBack js r s.row := hstep r hr
          have hone := view_written hjs hback
          have hother := view_written hjs (hback.alone hjs h.alone)
          constructor
          · dsimp only
            rw [run_append, ← h.view]
            exact hone
          · dsimp only
            rw [run_append, run_cons, run_nil, update, hother, hone, h.alone]

theorem toSettings_congr {row row' : OrgRow} (h : row.view js = row'.view js) :
    toSettings js row = toSettings js row' := by
  have hid : row.id = row'.id := congrFun h .id
  have hname : row.name = row'.name := congrFun h .name
  have hslug : row.slug = row'.slug := congrFun h .slug
  have hlogo : row.logo = row'.logo := congrFun h .logo
  have hcreated : row.createdAt = row'.createdAt := congrFun h .createdAt
  have hkey : ∀ k, (parseMetadata js row.metadata).get k = (parseMetadata js row'.metadata).get k :=
    fun k => congrFun h (.key k)
  simp only [toSettings, hid, hname, hslug, hlogo, hcreated, hkey]

/-- Every update that has started is on its way, or has written. -/
theorem Updates.step_perm (s : Updates) (step : Step) :
    ((s.step js step).order ++ (s.step js step).pending.map Reading.input).Perm
      (s.order ++ s.pending.map Reading.input ++ started [step]) := by
  cases step with
  | read input =>
      simp [Updates.step, started]
  | write k =>
      rw [Updates.step]
      cases hr : s.pending[k]? with
      | none => simp [started]
      | some r =>
          obtain ⟨hk, rfl⟩ := List.getElem?_eq_some_iff.1 hr
          have hpending := (List.getElem_cons_eraseIdx_perm hk).map Reading.input
          simp only [started, List.filterMap_cons, List.filterMap_nil, List.append_nil,
            List.append_assoc, List.singleton_append]
          exact hpending.append_left s.order

theorem started_cons (step : Step) (steps : List Step) :
    started (step :: steps) = started [step] ++ started steps := by
  rw [started, started, started, ← List.filterMap_append, List.singleton_append]

theorem run_perm (s : Updates) (steps : List Step) :
    ((run (Updates.step js) s steps).order ++
      (run (Updates.step js) s steps).pending.map Reading.input).Perm
        (s.order ++ s.pending.map Reading.input ++ started steps) := by
  induction steps generalizing s with
  | nil => simp [started]
  | cons step steps ih =>
      rw [run_cons, started_cons, ← List.append_assoc]
      exact (ih _).trans ((s.step_perm step).append_right _)

variable (js) in
/-- The updates of a run that have written, and the row they leave. -/
structure AsSerial (row : OrgRow) (steps : List Step) (s : Updates) : Prop where
  started : (s.order ++ s.pending.map Reading.input).Perm (started steps)
  settings : toSettings js s.row = toSettings js (run (update js) row s.order)
  view : s.row.view js = (run (update js) row s.order).view js
  effect : ∀ input ∈ s.order, ∀ c v, input.names js c = some v →
    (∀ other ∈ s.order, other.names js c = none ∨ other.names js c = some v) → s.row.view js c = v
  kept : ∀ c, (∀ input ∈ s.order, input.names js c = none) → s.row.view js c = row.view js c

/-- **Updates side by side**, none of which loses anything when it writes, leave what they leave
one after the other. -/
theorem asSerial_run (hjs : Lawful js) (row : OrgRow) {steps : List Step}
    (h : Along (Updates.step js) (LosesNothing js) { row := row } steps) :
    AsSerial js row steps (run (Updates.step js) { row := row } steps) := by
  have hsimulates : Simulates js row (run (Updates.step js) { row := row } steps) :=
    inv_run (fun _ _ hs hstep => hs.step hjs hstep) ⟨rfl, rfl⟩ h
  constructor
  · exact run_perm { row := row } steps
  · exact toSettings_congr hsimulates.alone.symm
  · exact hsimulates.alone.symm
  · intro input hinput c v hv hagree
    rw [hsimulates.view]
    exact run_of_agree hagree ⟨input, hinput, hv⟩ _
  · intro c hsilent
    rw [hsimulates.view]
    exact run_of_silent hsilent _

end

/-! ## two updates of one organization -/

def acme : OrgRow where
  id := "acme"
  name := "Acme"
  slug := "acme"
  logo := none
  metadata := none
  createdAt := 0

def inParis : OrgSettingsUpdate := { timezone := some (some "Europe/Paris") }

def inBerlin : OrgSettingsUpdate := { timezone := some (some "Europe/Berlin") }

def billed : OrgSettingsUpdate := { billingContact := some (some "billing@example.com") }

/-- Both read before either writes. -/
def sideBySide (a b : OrgSettingsUpdate) : List Step := [.read a, .read b, .write 0, .write 0]

theorem given_inParis {k : String} (h : inBerlin.given k = none) : inParis.given k = none := by
  by_cases hk : k = "timezone"
  · subst hk
    cases h
  · simp only [OrgSettingsUpdate.given, OrgSettingsUpdate.fields, inParis, List.lookup_cons,
      beq_false_of_ne hk]
    grind

theorem asSerial_run_inBerlin :
    AsSerial json acme (sideBySide inParis inBerlin)
      (run (Updates.step json) { row := acme } (sideBySide inParis inBerlin)) := by
  have hparis : WritesBack json ⟨inParis, none⟩ acme := by
    constructor
    · rfl
    · intro h
      exact absurd rfl h
    · intro _ _
      rfl
  have hberlin : WritesBack json ⟨inBerlin, none⟩ (written json none inParis acme) := by
    constructor
    · exact (items_written lawful_json none inParis acme).symm
    · intro h
      exact absurd rfl h
    · intro k hgiven
      rw [get_written lawful_json hparis, given_inParis hgiven]
      rfl
  refine asSerial_run lawful_json acme ⟨trivial, trivial, ?_, ?_, trivial⟩
  · rintro r ⟨⟩
    exact hparis
  · rintro r ⟨⟩
    exact hberlin

/-- The second of two writes wipes the timezone that the first has set. -/
theorem not_asSerial_billed :
    ¬AsSerial json acme (sideBySide inParis billed)
      (run (Updates.step json) { row := acme } (sideBySide inParis billed)) := by
  intro h
  have horder : (run (Updates.step json) { row := acme } (sideBySide inParis billed)).order =
      [inParis, billed] := rfl
  have hparis : inParis.names json (.key "timezone") = some (some (json.string "Europe/Paris")) :=
    rfl
  have hbilled : billed.names json (.key "timezone") = none := rfl
  have hset := h.effect inParis (by simp [horder]) (.key "timezone") _ hparis (by
    rw [horder]
    rintro other hother
    obtain rfl | rfl : other = inParis ∨ other = billed := by simpa using hother
    · exact .inr hparis
    · exact .inl hbilled)
  have hlost : (OrgRow.view json
      (run (Updates.step json) { row := acme } (sideBySide inParis billed)).row
        (.key "timezone")).isNone = true := by
    decide +kernel
  rw [hset] at hlost
  cases hlost

end UptimeFlow.Organizations
