import Mathlib.Algebra.Order.BigOperators.Group.List
import Mathlib.Algebra.Order.Group.Nat
import UptimeFlow.Monitors.Creating
import UptimeFlow.Splitting
import UptimeFlow.StatusPages.Hostnames
import UptimeFlow.StatusPages.Store

/-!
# UptimeFlow.StatusPages.Form

The form of a status page, the body it builds, and the schemas of the API.

Both sides trim what they are given.  The form looks at shapes, and at the
lengths of the name, the slug, the description and the footer; the schemas look
at the lengths of all texts and at the number of links.  So a form that
validates is taken just if the lengths the form does not look at are within
bounds (`createSchema_iff`), and for monitors it is the same (`formsAccepted_iff`).
-/

namespace UptimeFlow.StatusPages

open Monitors (trim length isEmpty isEmpty_iff trim_trim length_pos isUuid Url isValidUrl)
open Domains (toLowerCase isLabelChar)

/-! ## forms -/

structure SocialLink where
  label : String
  url : String
deriving DecidableEq, Repr

structure StatusPageFormState where
  name : String
  slug : String
  description : String := ""
  visibility : Visibility := .public
  timezone : String := "UTC"
  customDomain : String := ""
  logoUrl : String := ""
  faviconUrl : String := ""
  accent : String := ""
  footerText : String := ""
  socialLinks : List SocialLink := []
deriving DecidableEq, Repr

/-- The fields an error is shown beside. -/
inductive FormField where
  | name | slug | description | customDomain | logoUrl | faviconUrl | accent | footerText
  | socialLinks
deriving DecidableEq, Repr

abbrev StatusPageFormErrors := List (FormField × String)

/-! ## patterns -/

/-- `/^[a-z0-9]+(?:-[a-z0-9]+)*$/`. -/
def isSlug (s : List Char) : Bool :=
  (Js.split ['-'] s).all fun l => l ≠ [] && l.all fun c => c.isLower || c.isDigit

/-- `/^#(?:[0-9a-fA-F]{3}|[0-9a-fA-F]{6})$/`. -/
def isHexColor : List Char → Bool
  | '#' :: digits => (digits.length = 3 || digits.length = 6) && digits.all Monitors.isHexDigit
  | _ => false

/-- `/^(?:[a-z0-9](?:[a-z0-9-]{0,61}[a-z0-9])?\.)+[a-z]{2,}$/i`. -/
def isHost (s : List Char) : Bool :=
  let labels := Js.split ['.'] (s.map Char.toLower)
  2 ≤ labels.length && labels.dropLast.all Domains.isLabel && Domains.isTld (labels.getLastD [])

/-! ## validation -/

section
variable (newUrl : String → Option Url)

def validateName (state : StatusPageFormState) : StatusPageFormErrors :=
  if isEmpty state.name then [(.name, "Required")]
  else if length (trim state.name) > 120 then [(.name, "Must be 120 characters or fewer")]
  else []

def validateSlug (state : StatusPageFormState) : StatusPageFormErrors :=
  let slug := trim state.slug
  if slug = "" then [(.slug, "Required")]
  else if length slug < 2 ∨ length slug > 63 then [(.slug, "Must be 2–63 characters")]
  else if !isSlug slug.toList then [(.slug, "Lowercase letters, numbers, single hyphens")]
  else []

/-- The error of a text that is too long, spaces included. -/
def checkLength (field : FormField) (value : String) (max : Nat) (message : String) :
    StatusPageFormErrors :=
  if length value > max then [(field, message)] else []

def validateCustomDomain (state : StatusPageFormState) : StatusPageFormErrors :=
  let domain := trim state.customDomain
  if domain ≠ "" ∧ !isHost domain.toList then
    [(.customDomain, "Enter a valid hostname (status.acme.com)")]
  else []

/-- The error of a URL that is given and is none. -/
def checkUrl (field : FormField) (value : String) : StatusPageFormErrors :=
  if trim value ≠ "" ∧ !isValidUrl newUrl (trim value) then [(field, "Enter a valid URL")] else []

def validateAccent (state : StatusPageFormState) : StatusPageFormErrors :=
  if trim state.accent ≠ "" ∧ !isHexColor (trim state.accent).toList then
    [(.accent, "Use a hex color like #2fd180")]
  else []

def validateSocialLinks (state : StatusPageFormState) : StatusPageFormErrors :=
  if state.socialLinks.any fun l => isEmpty l.label || !isValidUrl newUrl (trim l.url) then
    [(.socialLinks, "Each link needs a label and a valid URL")]
  else []

def validateStatusPageForm (state : StatusPageFormState) : StatusPageFormErrors :=
  validateName state ++
  validateSlug state ++
  checkLength .description state.description 1000 "Must be 1000 characters or fewer" ++
  validateCustomDomain state ++
  checkUrl newUrl .logoUrl state.logoUrl ++
  checkUrl newUrl .faviconUrl state.faviconUrl ++
  validateAccent state ++
  checkLength .footerText state.footerText 500 "Must be 500 characters or fewer" ++
  validateSocialLinks newUrl state

end

/-! ## payloads -/

/-- A field that is absent or `null` is `none`. -/
structure StatusPageBranding where
  logoUrl : Option String := none
  faviconUrl : Option String := none
  accent : Option String := none
  footerText : Option String := none
  timezone : Option String := none
  socialLinks : Option (List SocialLink) := none
deriving DecidableEq, Repr

structure ComponentPayload where
  monitorId : Option String := none
  displayName : String
  description : Option String := none
  groupName : Option String := none
  sortOrder : Option Nat := none
deriving DecidableEq, Repr

/-- The body of a request: outer `none` where a field is absent, inner `none` where it is `null`. -/
structure StatusPagePayload where
  name : Option String := none
  slug : Option String := none
  description : Option (Option String) := none
  customDomain : Option (Option String) := none
  visibility : Option Visibility := none
  isPublic : Option Bool := none
  branding : Option (Option StatusPageBranding) := none
  components : Option (List ComponentPayload) := none
deriving DecidableEq, Repr

/-- `value.trim() || null`. -/
def nonBlank (value : String) : Option String :=
  if trim value = "" then none else some (trim value)

/-- Collapse branding fields; null when nothing is set. -/
def buildBranding (state : StatusPageFormState) : Option StatusPageBranding :=
  let links := (state.socialLinks.filter fun l => !isEmpty l.label && !isEmpty l.url).map
    fun l => { label := trim l.label, url := trim l.url }
  let branding : StatusPageBranding :=
    { logoUrl := nonBlank state.logoUrl
      faviconUrl := nonBlank state.faviconUrl
      accent := nonBlank state.accent
      footerText := nonBlank state.footerText
      timezone := nonBlank state.timezone
      socialLinks := if links.length > 0 then some links else none }
  if branding = {} then none else some branding

def buildStatusPagePayload (state : StatusPageFormState) : StatusPagePayload :=
  { name := some (trim state.name)
    slug := some (trim state.slug)
    description := some (nonBlank state.description)
    customDomain := some (nonBlank state.customDomain)
    visibility := some state.visibility
    branding := some (buildBranding state) }

/-! ## schemas -/

/-- `.optional()`, and `.nullish()` where the value is one that may be `null`. -/
def optional {α : Type} (schema : α → Option α) : Option α → Option (Option α)
  | none => some none
  | some value => (schema value).map some

/-- `z.string().trim().min(min).max(max)`. -/
def textSchema (min max : Nat) (value : String) : Option String :=
  if min ≤ length (trim value) ∧ length (trim value) ≤ max then some (trim value) else none

def slugSchema (value : String) : Option String :=
  let slug := String.ofList (toLowerCase (trim value).toList)
  if 2 ≤ length slug ∧ length slug ≤ 63 ∧ isSlug slug.toList then some slug else none

def hexColor (value : String) : Option String :=
  if isHexColor (trim value).toList then some (trim value) else none

def componentSchema (c : ComponentPayload) : Option ComponentPayload := do
  let monitorId ← optional (fun id => if isUuid id then some id else none) c.monitorId
  let displayName ← textSchema 1 120 c.displayName
  let description ← optional (textSchema 0 500) c.description
  let groupName ← optional (textSchema 0 120) c.groupName
  return { c with monitorId, displayName, description, groupName }

section
variable (newUrl : String → Option Url)

/-- `z.string().trim().url().max(2048)`. -/
def urlSchema (value : String) : Option String :=
  if (newUrl (trim value)).isSome ∧ length (trim value) ≤ 2048 then some (trim value) else none

def linkSchema (l : SocialLink) : Option SocialLink := do
  let label ← textSchema 1 40 l.label
  let url ← urlSchema newUrl l.url
  return { label, url }

/-- `z.array(schema).max(max)`. -/
def arraySchema {α : Type} (schema : α → Option α) (max : Nat) (items : List α) :
    Option (List α) :=
  if items.length ≤ max then items.mapM schema else none

def brandingSchema (b : StatusPageBranding) : Option StatusPageBranding := do
  let logoUrl ← optional (urlSchema newUrl) b.logoUrl
  let faviconUrl ← optional (urlSchema newUrl) b.faviconUrl
  let accent ← optional hexColor b.accent
  let footerText ← optional (textSchema 0 500) b.footerText
  let timezone ← optional (textSchema 0 64) b.timezone
  let socialLinks ← optional (arraySchema (linkSchema newUrl) 10) b.socialLinks
  return { logoUrl, faviconUrl, accent, footerText, timezone, socialLinks }

/-- The fields the two schemas share; `isPublic` and the visibility are taken as they are. -/
def pageFields (body : StatusPagePayload) : Option StatusPagePayload := do
  let name ← optional (textSchema 1 120) body.name
  let slug ← optional slugSchema body.slug
  let description ← optional (optional (textSchema 0 1000)) body.description
  let customDomain ← optional (optional (textSchema 0 253)) body.customDomain
  let branding ← optional (optional (brandingSchema newUrl)) body.branding
  return { body with name, slug, description, customDomain, branding }

def createSchema (body : StatusPagePayload) : Option StatusPagePayload :=
  if body.name.isNone ∨ body.slug.isNone then none
  else do
    let page ← pageFields newUrl body
    let components ← optional (arraySchema componentSchema 100) body.components
    return { page with components }

/-- Keys an update does not know are dropped, and then there must be one. -/
def updateSchema (body : StatusPagePayload) : Option StatusPagePayload := do
  let page ← pageFields newUrl { body with components := none }
  if page = {} then none else some page

end

/-! ## what the schemas accept -/

theorem isSome_optional {α : Type} {schema : α → Option α} {value : Option α} :
    (optional schema value).isSome = true ↔ ∀ x, value = some x → (schema x).isSome = true := by
  cases value with
  | none => simp [optional]
  | some x => simp [optional]

theorem isSome_textSchema {min max : Nat} {value : String} :
    (textSchema min max value).isSome = true ↔
      min ≤ length (trim value) ∧ length (trim value) ≤ max := by
  unfold textSchema
  split
  · next h => exact iff_of_true rfl h
  · next h => exact iff_of_false Bool.false_ne_true h

theorem isSome_mapM {α β : Type} {schema : α → Option β} {items : List α} :
    (items.mapM schema).isSome = true ↔ ∀ x ∈ items, (schema x).isSome = true := by
  induction items with
  | nil => simp
  | cons x items ih =>
      rw [List.mapM_cons, List.forall_mem_cons, ← ih]
      cases schema x with
      | none => simp
      | some y => cases items.mapM schema <;> simp

theorem isSome_arraySchema {α : Type} {schema : α → Option α} {max : Nat} {items : List α} :
    (arraySchema schema max items).isSome = true ↔
      items.length ≤ max ∧ ∀ x ∈ items, (schema x).isSome = true := by
  unfold arraySchema
  split
  · next h => rw [isSome_mapM, and_iff_right h]
  · next h => exact iff_of_false Bool.false_ne_true fun hc => h hc.1

/-- A body passes checks in turn just if it passes each. -/
theorem isSome_bind {α β : Type} {x : Option α} {f : α → Option β} {c : Prop}
    (h : ∀ a, (f a).isSome = true ↔ c) : (x >>= f).isSome = true ↔ x.isSome = true ∧ c := by
  cases x with
  | none => simp
  | some a => simpa using h a

section
variable {newUrl : String → Option Url}

theorem isSome_urlSchema {value : String} :
    (urlSchema newUrl value).isSome = true ↔
      (newUrl (trim value)).isSome = true ∧ length (trim value) ≤ 2048 := by
  unfold urlSchema
  split
  · next h => exact iff_of_true rfl h
  · next h => exact iff_of_false Bool.false_ne_true h

theorem isSome_linkSchema {l : SocialLink} :
    (linkSchema newUrl l).isSome = true ↔
      (1 ≤ length (trim l.label) ∧ length (trim l.label) ≤ 40) ∧
        (newUrl (trim l.url)).isSome = true ∧ length (trim l.url) ≤ 2048 := by
  rw [linkSchema, isSome_bind fun label => isSome_bind fun url => iff_true_intro rfl,
    isSome_textSchema, isSome_urlSchema, and_true]

theorem isSome_brandingSchema {b : StatusPageBranding} :
    (brandingSchema newUrl b).isSome = true ↔
      (optional (urlSchema newUrl) b.logoUrl).isSome = true ∧
      (optional (urlSchema newUrl) b.faviconUrl).isSome = true ∧
      (optional hexColor b.accent).isSome = true ∧
      (optional (textSchema 0 500) b.footerText).isSome = true ∧
      (optional (textSchema 0 64) b.timezone).isSome = true ∧
      (optional (arraySchema (linkSchema newUrl) 10) b.socialLinks).isSome = true := by
  rw [brandingSchema, isSome_bind fun _ => isSome_bind fun _ => isSome_bind fun _ =>
    isSome_bind fun _ => isSome_bind fun _ => isSome_bind fun _ => iff_true_intro rfl, and_true]

theorem isSome_pageFields {body : StatusPagePayload} :
    (pageFields newUrl body).isSome = true ↔
      (optional (textSchema 1 120) body.name).isSome = true ∧
      (optional slugSchema body.slug).isSome = true ∧
      (optional (optional (textSchema 0 1000)) body.description).isSome = true ∧
      (optional (optional (textSchema 0 253)) body.customDomain).isSome = true ∧
      (optional (optional (brandingSchema newUrl)) body.branding).isSome = true := by
  rw [pageFields, isSome_bind fun _ => isSome_bind fun _ => isSome_bind fun _ =>
    isSome_bind fun _ => isSome_bind fun _ => iff_true_intro rfl, and_true]

/-! ## forms that validate -/

/-- What a form without errors holds, as far as the schemas ask. -/
structure Valid (newUrl : String → Option Url) (s : StatusPageFormState) : Prop where
  name : trim s.name ≠ "" ∧ length (trim s.name) ≤ 120
  slug : 2 ≤ length (trim s.slug) ∧ length (trim s.slug) ≤ 63 ∧ isSlug (trim s.slug).toList = true
  description : length s.description ≤ 1000
  logoUrl : trim s.logoUrl ≠ "" → (newUrl (trim s.logoUrl)).isSome = true
  faviconUrl : trim s.faviconUrl ≠ "" → (newUrl (trim s.faviconUrl)).isSome = true
  accent : trim s.accent ≠ "" → isHexColor (trim s.accent).toList = true
  footerText : length s.footerText ≤ 500
  socialLinks : ∀ l ∈ s.socialLinks, trim l.label ≠ "" ∧ (newUrl (trim l.url)).isSome = true

theorem isSome_of_isValidUrl {value : String} (h : isValidUrl newUrl value = true) :
    (newUrl value).isSome = true := by
  unfold isValidUrl at h
  cases hurl : newUrl value with
  | none => simp [hurl] at h
  | some url => rfl

theorem le_of_checkLength {field : FormField} {value message : String} {max : Nat}
    (h : checkLength field value max message = []) : length value ≤ max := by
  unfold checkLength at h
  grind

theorem isSome_of_checkUrl {field : FormField} {value : String}
    (h : checkUrl newUrl field value = []) (hne : trim value ≠ "") :
    (newUrl (trim value)).isSome = true := by
  unfold checkUrl at h
  refine isSome_of_isValidUrl ?_
  grind

theorem valid_of_validateStatusPageForm {s : StatusPageFormState}
    (h : validateStatusPageForm newUrl s = []) : Valid newUrl s := by
  simp only [validateStatusPageForm, List.append_eq_nil_iff] at h
  obtain ⟨⟨⟨⟨⟨⟨⟨⟨hname, hslug⟩, hdescription⟩, -⟩, hlogo⟩, hfavicon⟩, haccent⟩, hfooter⟩, hlinks⟩ := h
  constructor
  · unfold validateName isEmpty at hname
    grind
  · unfold validateSlug at hslug
    grind
  · exact le_of_checkLength hdescription
  · exact isSome_of_checkUrl hlogo
  · exact isSome_of_checkUrl hfavicon
  · unfold validateAccent at haccent
    grind
  · exact le_of_checkLength hfooter
  · intro l hl
    have hany : ¬ (s.socialLinks.any fun l =>
        isEmpty l.label || !isValidUrl newUrl (trim l.url)) = true := by
      intro hany
      rw [validateSocialLinks, if_pos hany] at hlinks
      cases hlinks
    have hlink : ¬ (isEmpty l.label || !isValidUrl newUrl (trim l.url)) = true :=
      fun hbad => hany (List.any_eq_true.2 ⟨l, hl, hbad⟩)
    rw [Bool.or_eq_true, Bool.not_eq_true', not_or, Bool.not_eq_false] at hlink
    exact ⟨by simpa [isEmpty] using hlink.1, isSome_of_isValidUrl hlink.2⟩

/-! ## payloads that are accepted -/

theorem length_trim_le (value : String) : length (trim value) ≤ length value := by
  have hsub : (trim value).toList.Sublist value.toList := by
    rw [Monitors.toList_trim]
    exact (List.rdropWhile_prefix _ _).sublist.trans (List.dropWhile_sublist _)
  unfold length Js.length
  exact (hsub.map _).sum_le_sum fun _ _ => Nat.zero_le _

theorem isSome_nonBlank {schema : String → Option String} {value : String} :
    (optional schema (nonBlank value)).isSome = true ↔
      (trim value ≠ "" → (schema (trim value)).isSome = true) := by
  rw [isSome_optional, nonBlank]
  split
  · next h => simp [h]
  · next h => simp [h]

theorem isSome_text {max : Nat} {value : String} :
    (optional (textSchema 0 max) (nonBlank value)).isSome = true ↔ length (trim value) ≤ max := by
  rw [isSome_nonBlank, isSome_textSchema, trim_trim]
  constructor
  · intro h
    by_cases hempty : trim value = ""
    · rw [hempty]
      exact Nat.zero_le max
    · exact (h hempty).2
  · exact fun h _ => ⟨Nat.zero_le _, h⟩

theorem isSome_url {value : String} (hurl : trim value ≠ "" → (newUrl (trim value)).isSome = true) :
    (optional (urlSchema newUrl) (nonBlank value)).isSome = true ↔ length (trim value) ≤ 2048 := by
  rw [isSome_nonBlank, isSome_urlSchema, trim_trim]
  constructor
  · intro h
    by_cases hempty : trim value = ""
    · rw [hempty]
      exact Nat.zero_le _
    · exact (h hempty).2
  · exact fun h hne => ⟨hurl hne, h⟩

end

/-- A slug has nothing to lower. -/
theorem toLowerCase_of_isSlug {s : List Char} (h : isSlug s = true) : toLowerCase s = s := by
  have hplain : ∀ c ∈ s, Domains.lowerChar c = [c] := by
    intro c hc
    rcases Js.mem_split (List.cons_ne_nil '-' []) hc with hdash | ⟨l, hl, hmem⟩
    · exact Domains.lowerChar_of_plain (.inr (.inr (List.mem_singleton.1 hdash)))
    · have hpiece := List.all_eq_true.1 h l hl
      rw [Bool.and_eq_true] at hpiece
      have hchar := List.all_eq_true.1 hpiece.2 c hmem
      rw [Bool.or_eq_true] at hchar
      exact Domains.lowerChar_of_plain (hchar.imp_right .inl)
  unfold toLowerCase
  rw [List.flatMap_congr hplain, List.flatMap_singleton']

theorem isSome_slugSchema {value : String} (h : 2 ≤ length (trim value) ∧
    length (trim value) ≤ 63 ∧ isSlug (trim value).toList = true) :
    (slugSchema (trim value)).isSome = true := by
  unfold slugSchema
  rw [trim_trim, toLowerCase_of_isSlug h.2.2, String.ofList_toList]
  dsimp only
  rw [if_pos h]
  rfl

/-- The lengths only the schemas look at; a link counts if it has a URL. -/
structure Fits (s : StatusPageFormState) : Prop where
  customDomain : length (trim s.customDomain) ≤ 253
  logoUrl : length (trim s.logoUrl) ≤ 2048
  faviconUrl : length (trim s.faviconUrl) ≤ 2048
  timezone : length (trim s.timezone) ≤ 64
  links : (s.socialLinks.filter fun l => !isEmpty l.url).length ≤ 10
  link : ∀ l ∈ s.socialLinks, isEmpty l.url = false →
    length (trim l.label) ≤ 40 ∧ length (trim l.url) ≤ 2048

section
variable {newUrl : String → Option Url} {s : StatusPageFormState}

theorem isSome_socialLinks (h : Valid newUrl s) {links : List SocialLink}
    (hlinks : links = (s.socialLinks.filter fun l => !isEmpty l.label && !isEmpty l.url).map
      fun l => { label := trim l.label, url := trim l.url }) :
    (optional (arraySchema (linkSchema newUrl) 10)
      (if links.length > 0 then some links else none)).isSome = true ↔
      (s.socialLinks.filter fun l => !isEmpty l.url).length ≤ 10 ∧
        ∀ l ∈ s.socialLinks, isEmpty l.url = false →
          length (trim l.label) ≤ 40 ∧ length (trim l.url) ≤ 2048 := by
  have hlabel : (s.socialLinks.filter fun l => !isEmpty l.label && !isEmpty l.url) =
      s.socialLinks.filter fun l => !isEmpty l.url :=
    List.filter_congr fun l hl => by simp [isEmpty, (h.socialLinks l hl).1]
  have hlink : ∀ l ∈ s.socialLinks,
      (linkSchema newUrl ⟨trim l.label, trim l.url⟩).isSome = true ↔
        length (trim l.label) ≤ 40 ∧ length (trim l.url) ≤ 2048 := by
    intro l hl
    have hvalid := h.socialLinks l hl
    rw [isSome_linkSchema, trim_trim, trim_trim, and_iff_right (length_pos hvalid.1),
      and_iff_right hvalid.2]
  rw [hlabel] at hlinks
  subst hlinks
  rw [isSome_optional]
  constructor
  · intro hsome
    by_cases hnone : (s.socialLinks.filter fun l => !isEmpty l.url) = []
    · refine ⟨by simp [hnone], fun l hl hurl => ?_⟩
      have hmem : l ∈ s.socialLinks.filter fun l => !isEmpty l.url :=
        List.mem_filter.2 ⟨hl, by simp [hurl]⟩
      rw [hnone] at hmem
      cases hmem
    · have haccepted := hsome _ (if_pos (by simpa [List.length_pos_iff] using hnone))
      rw [isSome_arraySchema, List.length_map] at haccepted
      refine ⟨haccepted.1, fun l hl hurl => (hlink l hl).1 (haccepted.2 _ ?_)⟩
      exact List.mem_map.2 ⟨l, List.mem_filter.2 ⟨hl, by simp [hurl]⟩, rfl⟩
  · rintro ⟨hlength, hall⟩ links hlinks
    split at hlinks
    · obtain rfl := Option.some.inj hlinks
      rw [isSome_arraySchema, List.length_map]
      refine ⟨hlength, fun x hx => ?_⟩
      obtain ⟨l, hl, rfl⟩ := List.mem_map.1 hx
      obtain ⟨hl, hurl⟩ := List.mem_filter.1 hl
      exact (hlink l hl).2 (hall l hl (by simpa using hurl))
    · cases hlinks

theorem isSome_branding (h : Valid newUrl s) :
    (optional (brandingSchema newUrl) (buildBranding s)).isSome = true ↔
      length (trim s.logoUrl) ≤ 2048 ∧ length (trim s.faviconUrl) ≤ 2048 ∧
      length (trim s.timezone) ≤ 64 ∧
      (s.socialLinks.filter fun l => !isEmpty l.url).length ≤ 10 ∧
        ∀ l ∈ s.socialLinks, isEmpty l.url = false →
          length (trim l.label) ≤ 40 ∧ length (trim l.url) ≤ 2048 := by
  have hblank : ∀ b : StatusPageBranding,
      (optional (brandingSchema newUrl) (if b = {} then none else some b)).isSome = true ↔
        (brandingSchema newUrl b).isSome = true := by
    intro b
    split
    · next hb =>
      subst hb
      exact iff_of_true rfl (isSome_brandingSchema.2 ⟨rfl, rfl, rfl, rfl, rfl, rfl⟩)
    · rw [isSome_optional]
      simp
  have haccent : (optional hexColor (nonBlank s.accent)).isSome = true := by
    rw [isSome_nonBlank]
    intro hne
    rw [hexColor, trim_trim, if_pos (h.accent hne)]
    rfl
  have hfooter : length (trim s.footerText) ≤ 500 := (length_trim_le _).trans h.footerText
  rw [buildBranding, hblank, isSome_brandingSchema, isSome_url h.logoUrl, isSome_url h.faviconUrl,
    isSome_text, isSome_text, isSome_socialLinks h rfl, and_iff_right haccent, and_iff_right hfooter]

/-- Of a valid form, the schemas check no more than lengths. -/
theorem isSome_pageFields_payload (h : Valid newUrl s) :
    (pageFields newUrl (buildStatusPagePayload s)).isSome = true ↔ Fits s := by
  have hname : (optional (textSchema 1 120) (some (trim s.name))).isSome = true := by
    rw [isSome_optional]
    rintro x ⟨⟩
    rw [isSome_textSchema, trim_trim]
    exact ⟨length_pos h.name.1, h.name.2⟩
  have hslug : (optional slugSchema (some (trim s.slug))).isSome = true := by
    rw [isSome_optional]
    rintro x ⟨⟩
    exact isSome_slugSchema h.slug
  have hnested : ∀ {α : Type} (schema : α → Option α) (value : Option α),
      (optional (optional schema) (some value)).isSome = true ↔
        (optional schema value).isSome = true := by
    intro α schema value
    rw [isSome_optional]
    simp
  have hdescription : length (trim s.description) ≤ 1000 :=
    (length_trim_le _).trans h.description
  rw [isSome_pageFields]
  unfold buildStatusPagePayload
  dsimp only
  rw [hnested, hnested, hnested, isSome_text, isSome_text, isSome_branding h, and_iff_right hname,
    and_iff_right hslug, and_iff_right hdescription]
  constructor
  · rintro ⟨hdomain, hlogo, hfavicon, htimezone, hlinks, hlink⟩
    exact ⟨hdomain, hlogo, hfavicon, htimezone, hlinks, hlink⟩
  · rintro ⟨hdomain, hlogo, hfavicon, htimezone, hlinks, hlink⟩
    exact ⟨hdomain, hlogo, hfavicon, htimezone, hlinks, hlink⟩

theorem visibility_of_pageFields {body page : StatusPagePayload}
    (h : pageFields newUrl body = some page) : page.visibility = body.visibility := by
  simp only [pageFields, Option.bind_eq_bind, Option.bind_eq_some_iff] at h
  obtain ⟨name, -, slug, -, description, -, customDomain, -, branding, -, h⟩ := h
  rw [← Option.some.inj h]

theorem createSchema_iff (h : Valid newUrl s) :
    (createSchema newUrl (buildStatusPagePayload s)).isSome = true ↔ Fits s := by
  rw [← isSome_pageFields_payload h, createSchema, if_neg (by simp [buildStatusPagePayload])]
  rw [isSome_bind fun _ => isSome_bind fun _ => iff_true_intro rfl, and_true]
  exact and_iff_left rfl

theorem updateSchema_iff (h : Valid newUrl s) :
    (updateSchema newUrl (buildStatusPagePayload s)).isSome = true ↔ Fits s := by
  rw [← isSome_pageFields_payload h, updateSchema]
  have hsame : { buildStatusPagePayload s with components := none } = buildStatusPagePayload s := rfl
  rw [hsame]
  cases hpage : pageFields newUrl (buildStatusPagePayload s) with
  | none => simp
  | some page =>
      have hvisibility : page.visibility = some s.visibility := visibility_of_pageFields hpage
      have hne : page ≠ {} := by
        rintro rfl
        cases hvisibility
      simp [hne]

end

/-- **A form that validates is accepted** just if it fits: the monitor form by the creation of
a monitor, and the form of a status page by both schemas. -/
theorem formsAccepted_iff (newUrl : String → Option Url) :
    (∀ s, Monitors.validateMonitorForm newUrl s = [] →
      (Monitors.accepts newUrl (Monitors.createBody s) ↔ Monitors.Fits s)) ∧
    ∀ s, validateStatusPageForm newUrl s = [] →
      ((createSchema newUrl (buildStatusPagePayload s)).isSome = true ∧
        (updateSchema newUrl (buildStatusPagePayload s)).isSome = true ↔ Fits s) := by
  constructor
  · exact fun s h => Monitors.accepts_iff (Monitors.valid_of_validateMonitorForm h)
  · intro s h
    have hvalid := valid_of_validateStatusPageForm h
    rw [createSchema_iff hvalid, updateSchema_iff hvalid, and_self]

/-- A monitor that checks whether a host answers. -/
def pingForm (host : String) : Monitors.MonitorFormState where
  name := "Ping"
  type := .ping
  url := ""
  host := host
  port := ""
  httpMethod := .get
  expectedStatus := ""
  keyword := ""
  keywordInverted := false
  requestHeaders := ""
  intervalSeconds := "60"
  timeoutSeconds := "30"
  retries := "2"
  regions := []
  failureThreshold := "1"
  successThreshold := "1"
  escalationPolicyId := ""
  channelIds := []

/-- A page with one link. -/
def linkForm (label : String) : StatusPageFormState where
  name := "Acme"
  slug := "acme"
  socialLinks := [{ label, url := "https://x.com" }]

theorem formsAccepted_iff_short :
    Monitors.accepts Monitors.anyUrl (Monitors.createBody (pingForm "x.com")) ∧
      (createSchema Monitors.anyUrl (buildStatusPagePayload (linkForm "X"))).isSome = true := by
  have h := formsAccepted_iff Monitors.anyUrl
  refine ⟨(h.1 _ (by decide +kernel)).2 ?_, ((h.2 _ (by decide +kernel)).2 ?_).1⟩
  · exact
      { type := by decide
        url := by decide
        host := fun _ => by decide +kernel
        keyword := by decide
        requestHeaders := fun h => absurd h (by decide)
        escalationPolicyId := by decide
        channelIds := by decide +kernel }
  · exact
      { customDomain := by decide +kernel
        logoUrl := by decide +kernel
        faviconUrl := by decide +kernel
        timezone := by decide +kernel
        links := by decide +kernel
        link := by decide +kernel }

/-- A host of 254 characters, and a label of 41: both forms validate, no schema takes them. -/
theorem not_formsAccepted_long :
    Monitors.validateMonitorForm Monitors.anyUrl (pingForm (String.ofList (List.replicate 254 'a'))) =
        [] ∧
      ¬ Monitors.accepts Monitors.anyUrl
        (Monitors.createBody (pingForm (String.ofList (List.replicate 254 'a')))) ∧
    validateStatusPageForm Monitors.anyUrl (linkForm (String.ofList (List.replicate 41 'a'))) = [] ∧
      createSchema Monitors.anyUrl
        (buildStatusPagePayload (linkForm (String.ofList (List.replicate 41 'a')))) = none ∧
      updateSchema Monitors.anyUrl
        (buildStatusPagePayload (linkForm (String.ofList (List.replicate 41 'a')))) = none := by
  have hlong : Monitors.length (Monitors.trim (String.ofList (List.replicate 254 'a'))) = 254 := by
    rw [Monitors.length, Monitors.toList_trim, String.toList_ofList]
    decide +kernel
  have hgiven : Monitors.isEmpty (String.ofList (List.replicate 254 'a')) =
      Monitors.isEmpty "x.com" := by
    have hne : ¬ Monitors.isEmpty (String.ofList (List.replicate 254 'a')) = true := by
      rw [Monitors.isEmpty_iff, String.toList_ofList]
      decide +kernel
    rw [Bool.eq_false_iff.2 hne]
    decide +kernel
  have hvalid : Monitors.validateMonitorForm Monitors.anyUrl
      (pingForm (String.ofList (List.replicate 254 'a'))) = [] := by
    refine (Monitors.validateMonitorForm_host Monitors.anyUrl (pingForm "x.com") hgiven).trans ?_
    decide +kernel
  refine ⟨hvalid, fun haccepted => ?_, by decide +kernel, by decide +kernel, by decide +kernel⟩
  have hfits := (Monitors.accepts_iff (Monitors.valid_of_validateMonitorForm hvalid)).1 haccepted
  exact absurd (hfits.host rfl) (by rw [pingForm, hlong]; decide)

end UptimeFlow.StatusPages
