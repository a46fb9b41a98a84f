import UptimeFlow.Splitting
import UptimeFlow.StatusPages.Domains

/-!
# UptimeFlow.StatusPages.Hostnames

The spellings of a hostname.

A hostname is the labels it joins, each within its bounds, the last of letters
only; whatever is entered, the result is one (`normalizeDomain_sound`).  A spelling
surrounds it with blanks, a scheme, a trailing dot, a port and a path, in letters
of either case; every spelling of a hostname normalizes to it
(`normalizeDomain_spell`), since no character of a hostname ends one of these.
-/

namespace UptimeFlow.StatusPages.Domains

/-! ## hostnames -/

/-- A letter, digit or hyphen, the letters in lower case. -/
def IsLabelChar (c : Char) : Prop := c.isLower = true ∨ c.isDigit = true ∨ c = '-'

/-- One to 63 letters, digits and inner hyphens. -/
structure IsLabel (l : List Char) : Prop where
  pos : 1 ≤ l.length
  short : l.length ≤ 63
  chars : ∀ c ∈ l, IsLabelChar c
  first : l.head? ≠ some '-'
  last : l.getLast? ≠ some '-'

/-- At least two letters. -/
structure IsTop (l : List Char) : Prop where
  two : 2 ≤ l.length
  letters : ∀ c ∈ l, c.isLower = true

/-- A hostname, by its labels: those before the last one, and the last one. -/
structure Hostname where
  labels : List (List Char)
  top : List Char
  ne_nil : labels ≠ []
  isLabel : ∀ l ∈ labels ++ [top], IsLabel l
  isTop : IsTop top
  short : (['.'].intercalate (labels ++ [top])).length ≤ 253

def Hostname.text (h : Hostname) : List Char := ['.'].intercalate (h.labels ++ [h.top])

theorem isLabelChar_iff {c : Char} : isLabelChar c = true ↔ IsLabelChar c := by
  simp [isLabelChar, IsLabelChar, or_assoc]

theorem isLabel_iff {l : List Char} : isLabel l = true ↔ IsLabel l := by
  unfold isLabel
  simp only [Bool.and_eq_true, decide_eq_true_eq, List.all_eq_true, isLabelChar_iff]
  constructor
  · rintro ⟨⟨⟨⟨hpos, hshort⟩, hchars⟩, hfirst⟩, hlast⟩
    exact ⟨hpos, hshort, hchars, hfirst, hlast⟩
  · intro h
    exact ⟨⟨⟨⟨h.pos, h.short⟩, h.chars⟩, h.first⟩, h.last⟩

theorem isTld_iff {l : List Char} : isTld l = true ↔ IsTop l := by
  unfold isTld
  rw [Bool.and_eq_true, decide_eq_true_eq, List.all_eq_true]
  exact ⟨fun h => ⟨h.1, h.2⟩, fun h => ⟨h.two, h.letters⟩⟩

/-! ## characters -/

/-- What holds of the first 128 characters holds of every one below 128. -/
theorem forall_ascii {P : Char → Prop} (h : ∀ n < 128, P (Char.ofNat n)) (c : Char)
    (hc : c.toNat < 128) : P c := by
  have hn := h c.toNat hc
  rwa [Char.ofNat_toNat] at hn

theorem toNat_of_isLower {c : Char} (h : c.isLower = true) : 97 ≤ c.toNat ∧ c.toNat ≤ 122 := by
  have hlower : (decide (97 ≤ c.toNat) && decide (c.toNat ≤ 122)) = true := h
  simpa using hlower

theorem toNat_of_isUpper {c : Char} (h : c.isUpper = true) : 65 ≤ c.toNat ∧ c.toNat ≤ 90 :=
  of_decide_eq_true h

theorem toNat_of_isDigit {c : Char} (h : c.isDigit = true) : 48 ≤ c.toNat ∧ c.toNat ≤ 57 :=
  Char.isDigit_iff_toNat.1 h

theorem isAlphanum_ascii {c : Char} (h : c.isAlphanum = true) : c.toNat < 128 := by
  have hparts : ((c.isUpper || c.isLower) || c.isDigit) = true := h
  rw [Bool.or_eq_true, Bool.or_eq_true] at hparts
  rcases hparts with (h | h) | h
  · have := toNat_of_isUpper h
    omega
  · have := toNat_of_isLower h
    omega
  · have := toNat_of_isDigit h
    omega

theorem lowerChar_of_ascii {c : Char} (hc : c.toNat < 128) : lowerChar c = [c.toLower] :=
  forall_ascii (P := fun c => lowerChar c = [c.toLower]) (by decide +kernel) c hc

/-- An ASCII text is lowered letter by letter. -/
theorem toLowerCase_of_ascii {cs : List Char} (h : ∀ c ∈ cs, c.toNat < 128) :
    toLowerCase cs = cs.map Char.toLower := by
  unfold toLowerCase
  rw [List.flatMap_congr fun c hc => lowerChar_of_ascii (h c hc), List.flatMap_def]
  induction cs with
  | nil => rfl
  | cons c cs ih => simp [ih fun d hd => h d (by simp [hd])]

theorem toLowerCase_append (xs ys : List Char) :
    toLowerCase (xs ++ ys) = toLowerCase xs ++ toLowerCase ys := List.flatMap_append

/-- A character of a hostname: of a label, or between two of them. -/
def isHostChar (c : Char) : Bool := isLabelChar c || c = '.'

theorem isHostChar_ascii {c : Char} (h : isHostChar c = true) : c.toNat < 128 := by
  rw [isHostChar, Bool.or_eq_true, isLabelChar_iff, decide_eq_true_eq] at h
  rcases h with (h | h | rfl) | rfl
  · have := toNat_of_isLower h
    omega
  · have := toNat_of_isDigit h
    omega
  · decide
  · decide

/-- What the characters of a hostname are not. -/
structure IsPlain (c : Char) : Prop where
  ascii : c.toNat < 128
  lower : c.toLower = c
  solid : Js.isSpace c = false
  scheme : isSchemeChar c = true
  slash : c ≠ '/'
  colon : c ≠ ':'
  star : c ≠ '*'

theorem isPlain_of_isHostChar {c : Char} (h : isHostChar c = true) : IsPlain c := by
  have hall : ∀ n < 128, isHostChar (Char.ofNat n) = true →
      (Char.ofNat n).toLower = Char.ofNat n ∧ Js.isSpace (Char.ofNat n) = false ∧
      isSchemeChar (Char.ofNat n) = true ∧
      Char.ofNat n ≠ '/' ∧ Char.ofNat n ≠ ':' ∧ Char.ofNat n ≠ '*' := by decide +kernel
  have hc := isHostChar_ascii h
  have hplain := hall c.toNat hc (by rwa [Char.ofNat_toNat])
  rw [Char.ofNat_toNat] at hplain
  obtain ⟨hlower, hsolid, hscheme, hslash, hcolon, hstar⟩ := hplain
  exact ⟨hc, hlower, hsolid, hscheme, hslash, hcolon, hstar⟩

theorem lowerChar_of_plain {c : Char} (h : c.isLower = true ∨ c.isDigit = true ∨ c = '-') :
    lowerChar c = [c] := by
  have hhost : isHostChar c = true := by simp [isHostChar, isLabelChar_iff.2 h]
  have hplain := isPlain_of_isHostChar hhost
  rw [lowerChar_of_ascii hplain.ascii, hplain.lower]

/-! ## the text of a hostname -/

namespace Hostname

variable (h : Hostname)

theorem split_text : Js.split ['.'] h.text = h.labels ++ [h.top] := by
  rw [Js.split_singleton_eq_iff (by simp)]
  refine ⟨rfl, fun l hl hdot => ?_⟩
  have hchar := (h.isLabel l hl).chars '.' hdot
  exact absurd hchar (by unfold IsLabelChar; decide)

theorem isHostChar_text {c : Char} (hc : c ∈ h.text) : isHostChar c = true := by
  rcases Js.mem_intercalate hc with hdot | ⟨l, hl, hmem⟩
  · rw [List.mem_singleton.1 hdot]
    decide
  · simp [isHostChar, isLabelChar_iff.2 ((h.isLabel l hl).chars c hmem)]

theorem isPlain_text {c : Char} (hc : c ∈ h.text) : IsPlain c :=
  isPlain_of_isHostChar (h.isHostChar_text hc)

/-- The text ends in the last label. -/
theorem exists_text : ∃ before, h.text = before ++ h.top := by
  refine ⟨Trimming.join '.' h.labels ++ ['.'], ?_⟩
  have hconcat := Trimming.join_concat '.' h.ne_nil h.top
  simpa [text, Trimming.join] using hconcat

theorem top_ne_nil : h.top ≠ [] := by
  intro hnil
  have htwo := h.isTop.two
  rw [hnil] at htwo
  simp at htwo

theorem text_ne_nil : h.text ≠ [] := by
  obtain ⟨before, hbefore⟩ := h.exists_text
  rw [hbefore]
  simp [h.top_ne_nil]

/-- The last character is a letter. -/
theorem getLast?_text : h.text.getLast? ≠ some '.' := by
  obtain ⟨before, hbefore⟩ := h.exists_text
  rw [hbefore, List.getLast?_append_of_ne_nil _ h.top_ne_nil]
  intro hlast
  have hlower := h.isTop.letters '.' (List.mem_of_getLast? hlast)
  exact absurd hlower (by decide)

theorem jsLength_text : Js.length h.text = h.text.length := by
  unfold Js.length
  rw [List.map_congr_left fun c hc => if_pos (by have := (h.isPlain_text hc).ascii; omega)]
  simp

/-- Its last label has a letter in it. -/
theorem isDottedQuad_text : isDottedQuad h.text = false := by
  unfold isDottedQuad
  rw [h.split_text]
  obtain ⟨c, hc⟩ := List.exists_mem_of_ne_nil _ h.top_ne_nil
  have hlower := h.isTop.letters c hc
  have hdigit : c.isDigit = false := by
    rw [Bool.eq_false_iff]
    intro hdigit
    have hletter := toNat_of_isLower hlower
    have hten := toNat_of_isDigit hdigit
    omega
  have hall : h.top.all Char.isDigit = false := by
    rw [List.all_eq_false]
    exact ⟨c, hc, by simp [hdigit]⟩
  simp [hall]

theorem text_ne_localhost : h.text ≠ "localhost".toList := by
  intro heq
  have hsplit := h.split_text
  rw [heq] at hsplit
  have hlength := congrArg List.length hsplit
  have hpos := List.length_pos_iff.2 h.ne_nil
  rw [show Js.split ['.'] "localhost".toList = ["localhost".toList] by decide] at hlength
  simp only [List.length_append, List.length_singleton] at hlength
  omega

end Hostname

/-! ## what is accepted -/

theorem length_le_jsLength (cs : List Char) : cs.length ≤ Js.length cs := by
  induction cs with
  | nil => exact Nat.le_refl 0
  | cons c cs ih =>
      unfold Js.length at ih ⊢
      rw [List.map_cons, List.sum_cons, List.length_cons]
      split <;> omega

/-- A host name that passes the checks, as a hostname. -/
theorem exists_hostname {host : List Char} (hlength : host.length ≤ 253)
    (hcount : 2 ≤ (Js.split ['.'] host).length) (hlabels : (Js.split ['.'] host).all isLabel)
    (htop : isTld ((Js.split ['.'] host).getLastD [])) : ∃ name : Hostname, name.text = host := by
  generalize hpieces : Js.split ['.'] host = pieces at hcount hlabels htop
  have hne : pieces ≠ [] := by
    rintro rfl
    simp at hcount
  obtain ⟨rfl, _⟩ := (Js.split_singleton_eq_iff hne).1 hpieces
  obtain ⟨labels, top, rfl⟩ : ∃ labels top, pieces = labels ++ [top] :=
    ⟨_, _, (List.dropLast_append_getLast hne).symm⟩
  rw [List.length_append, List.length_singleton] at hcount
  have hlabel : ∀ l ∈ labels ++ [top], IsLabel l :=
    fun l hl => isLabel_iff.1 (List.all_eq_true.1 hlabels l hl)
  rw [List.getLastD_concat, isTld_iff] at htop
  exact ⟨⟨labels, top, List.length_pos_iff.1 (by omega), hlabel, htop, hlength⟩, rfl⟩

/-- Whatever is accepted is a hostname. -/
theorem exists_of_normalizeDomain {input host : List Char}
    (h : normalizeDomain input = some host) : ∃ name : Hostname, name.text = host := by
  unfold normalizeDomain at h
  dsimp only at h
  split_ifs at h with _ hlength _ _ _ hcount hlabels htop
  cases h
  simp only [Bool.or_eq_true, decide_eq_true_eq, not_or, not_lt] at hlength
  refine exists_hostname ((length_le_jsLength _).trans hlength.2) (by omega) ?_ ?_
  · simpa using hlabels
  · simpa using htop

theorem normalizeDomain_of_hostOf {input : List Char} {name : Hostname}
    (h : hostOf input = name.text) : normalizeDomain input = some name.text := by
  have hempty : (toLowerCase (Js.trim input)).isEmpty = false := by
    rw [Bool.eq_false_iff]
    intro hnil
    rw [hostOf, List.isEmpty_iff.1 hnil] at h
    exact name.text_ne_nil h.symm
  have hlong : (name.text.isEmpty || decide (Js.length name.text > 253)) = false := by
    have hshort : name.text.length ≤ 253 := name.short
    rw [name.jsLength_text]
    simp [name.text_ne_nil, hshort]
  have hstar : name.text.contains '*' = false := by
    have hmem : '*' ∉ name.text := fun hc => (name.isPlain_text hc).star rfl
    simpa using hmem
  have hcolon : name.text.contains ':' = false := by
    have hmem : ':' ∉ name.text := fun hc => (name.isPlain_text hc).colon rfl
    simpa using hmem
  have hcount : ¬ (name.labels ++ [name.top]).length < 2 := by
    have hpos := List.length_pos_iff.2 name.ne_nil
    rw [List.length_append, List.length_singleton]
    omega
  have hlabels : (name.labels ++ [name.top]).all isLabel = true :=
    List.all_eq_true.2 fun l hl => isLabel_iff.2 (name.isLabel l hl)
  have htop : isTld ((name.labels ++ [name.top]).getLastD []) = true := by
    rw [List.getLastD_concat]
    exact isTld_iff.2 name.isTop
  unfold normalizeDomain
  rw [hempty, h]
  simp only [hlong, hstar, hcolon, name.isDottedQuad_text, name.text_ne_localhost, name.split_text,
    hcount, hlabels, htop]
  simp

/-! ## spellings -/

/-- A scheme, in letters of either case. -/
structure Scheme where
  first : Char
  rest : List Char
  first_letter : first.isAlpha = true
  rest_chars : ∀ c ∈ rest, c.isAlphanum = true ∨ c = '+' ∨ c = '.' ∨ c = '-'

/-- What a hostname can be surrounded with: blanks, a scheme, a trailing dot, a port, and a path
behind its slash. -/
structure Spelling where
  before : List Char := []
  scheme : Option Scheme := none
  dot : Bool := false
  port : Option (List Char) := none
  path : Option (List Char) := none
  after : List Char := []
  before_blank : ∀ c ∈ before, Js.isSpace c = true
  port_digits : ∀ ds ∈ port, ds ≠ [] ∧ ∀ c ∈ ds, c.isDigit = true
  after_blank : ∀ c ∈ after, Js.isSpace c = true

namespace Spelling

variable (s : Spelling)

def schemeText : List Char :=
  match s.scheme with
  | none => []
  | some scheme => scheme.first :: scheme.rest ++ "://".toList

def dotText : List Char := if s.dot then ['.'] else []

def portText : List Char :=
  match s.port with
  | none => []
  | some ds => ':' :: ds

def pathText : List Char :=
  match s.path with
  | none => []
  | some path => '/' :: path

/-- A text in the places around it. -/
def spell (text : List Char) : List Char :=
  s.before ++ (s.schemeText ++ (text ++ s.dotText ++ s.portText) ++ (s.pathText ++ s.after))

end Spelling

/-! ## around a hostname -/

/-- What can follow the host and port: nothing, or a path. -/
def IsRest (rest : List Char) : Prop := rest = [] ∨ ∃ path, rest = '/' :: path

theorem IsRest.toLowerCase {rest : List Char} (h : IsRest rest) : IsRest (toLowerCase rest) := by
  rcases h with rfl | ⟨path, rfl⟩
  · exact .inl rfl
  · exact .inr ⟨Domains.toLowerCase path, rfl⟩

theorem IsRest.takeWhile {rest : List Char} (h : IsRest rest) :
    rest.takeWhile (· ≠ '/') = [] := by
  rcases h with rfl | ⟨path, rfl⟩ <;> simp

/-- A character that a text can begin and end with, in ASCII. -/
def IsSolid (c : Char) : Prop := c.toNat < 128 ∧ Js.isSpace c = false

theorem ascii_of_toLower {c : Char} (h : c.toLower.toNat < 128) : c.toNat < 128 := by
  by_cases hupper : c.isUpper = true
  · have := toNat_of_isUpper hupper
    omega
  · have hsame : c.toLower = c := dif_neg fun hc => hupper (decide_eq_true hc)
    rwa [hsame] at h

theorem isSchemeChar_ascii {c : Char} (h : isSchemeChar c = true) : c.toNat < 128 := by
  by_cases hplus : c = '+'
  · subst hplus
    decide
  · refine isHostChar_ascii ?_
    simpa [isSchemeChar, isHostChar, hplus] using h

/-- A character of a scheme or a hostname, in either case. -/
theorem isSolid_of_isSchemeChar {c : Char} (h : isSchemeChar c.toLower = true) : IsSolid c := by
  have hascii := ascii_of_toLower (isSchemeChar_ascii h)
  exact ⟨hascii, forall_ascii (P := fun c => isSchemeChar c.toLower = true → Js.isSpace c = false)
    (by decide +kernel) c hascii h⟩

theorem isSolid_of_isHostChar {c : Char} (h : isHostChar c = true) : IsSolid c :=
  ⟨(isPlain_of_isHostChar h).ascii, (isPlain_of_isHostChar h).solid⟩

theorem isHostChar_of_isDigit {c : Char} (h : c.isDigit = true) : isHostChar c = true := by
  simp [isHostChar, isLabelChar, h]

theorem Scheme.first_toLower (scheme : Scheme) : scheme.first.toLower.isLower = true := by
  have halpha : scheme.first.isAlphanum = true := by simp [Char.isAlphanum, scheme.first_letter]
  exact forall_ascii (P := fun c => c.isAlpha = true → c.toLower.isLower = true)
    (by decide +kernel) _ (isAlphanum_ascii halpha) scheme.first_letter

theorem Scheme.rest_toLower (scheme : Scheme) :
    ∀ c ∈ scheme.rest, isSchemeChar c.toLower = true := by
  intro c hc
  rcases scheme.rest_chars c hc with h | rfl | rfl | rfl
  · exact forall_ascii (P := fun c => c.isAlphanum = true → isSchemeChar c.toLower = true)
      (by decide +kernel) _ (isAlphanum_ascii h) h
  all_goals decide

namespace Spelling

variable (s : Spelling)

theorem isSolid_schemeText : ∀ c ∈ s.schemeText, IsSolid c := by
  unfold schemeText
  cases s.scheme with
  | none => simp
  | some scheme =>
      intro c hc
      rw [List.mem_append, List.mem_cons] at hc
      rcases hc with (rfl | hc) | hc
      · refine isSolid_of_isSchemeChar ?_
        simp [isSchemeChar, isLabelChar, scheme.first_toLower]
      · exact isSolid_of_isSchemeChar (scheme.rest_toLower c hc)
      · have hmarks : "://".toList.all (fun c => c.toNat < 128 && !Js.isSpace c) = true := by
          decide
        simpa [IsSolid] using List.all_eq_true.1 hmarks c hc

theorem isSolid_dotText : ∀ c ∈ s.dotText, IsSolid c := by
  unfold dotText
  split <;> simp [IsSolid, Js.isSpace]

theorem isHostChar_port {ds : List Char} (h : s.port = some ds) :
    ∀ c ∈ ds, isHostChar c = true :=
  fun c hc => isHostChar_of_isDigit ((s.port_digits ds h).2 c hc)

theorem isSolid_portText : ∀ c ∈ s.portText, IsSolid c := by
  unfold portText
  cases hport : s.port with
  | none => simp
  | some ds =>
      intro c hc
      rcases List.mem_cons.1 hc with rfl | hc
      · exact ⟨by decide, by decide⟩
      · exact isSolid_of_isHostChar (s.isHostChar_port hport c hc)

/-- What is left of the path and the blanks behind it. -/
theorem isRest_rdropWhile : IsRest ((s.pathText ++ s.after).rdropWhile Js.isSpace) := by
  unfold pathText
  cases s.path with
  | none =>
      left
      rw [List.nil_append, List.rdropWhile_eq_nil_iff]
      exact s.after_blank
  | some path =>
      right
      dsimp only
      rw [List.cons_append, Trimming.rdropWhile_cons_neg (by decide)]
      exact ⟨_, rfl⟩

/-- What stands between the blanks and before the path. -/
def core (text : List Char) : List Char := s.schemeText ++ (text ++ s.dotText ++ s.portText)

theorem isSolid_core {text : List Char} (htext : ∀ c ∈ text, IsSolid c) :
    ∀ c ∈ s.core text, IsSolid c := by
  intro c hc
  unfold core at hc
  simp only [List.mem_append] at hc
  rcases hc with hc | (hc | hc) | hc
  · exact s.isSolid_schemeText c hc
  · exact htext c hc
  · exact s.isSolid_dotText c hc
  · exact s.isSolid_portText c hc

/-- No more than a path is left behind the places between the blanks. -/
theorem trim_spell {text : List Char} (hne : text ≠ []) (htext : ∀ c ∈ text, IsSolid c) :
    ∃ rest, IsRest rest ∧ Js.trim (s.spell text) = s.core text ++ rest := by
  refine ⟨_, s.isRest_rdropWhile, ?_⟩
  have hcore : s.core text ≠ [] := by simp [core, hne]
  have hsolid := s.isSolid_core htext
  exact Trimming.trim_append_append s.before_blank hcore fun c hc => (hsolid c hc).2

/-- In lower case only the letters of the scheme and the text change. -/
theorem toLowerCase_core {text : List Char} (htext : ∀ c ∈ text, IsSolid c) :
    toLowerCase (s.core text) =
      s.schemeText.map Char.toLower ++ (text.map Char.toLower ++ s.dotText ++ s.portText) := by
  rw [toLowerCase_of_ascii fun c hc => (s.isSolid_core htext c hc).1]
  have hdot : s.dotText.map Char.toLower = s.dotText := by
    unfold dotText
    split <;> decide
  have hport : s.portText.map Char.toLower = s.portText := by
    unfold portText
    cases hport : s.port with
    | none => rfl
    | some ds =>
        have hsame : ∀ c ∈ ds, c.toLower = id c :=
          fun c hc => (isPlain_of_isHostChar (s.isHostChar_port hport c hc)).lower
        rw [List.map_cons, List.map_congr_left hsame, List.map_id]
        rfl
  simp [core, hdot, hport]

end Spelling

/-! ## the host name found -/

/-- A scheme goes, with the marks behind it. -/
theorem stripScheme_marks {first : Char} {rest : List Char} (hfirst : first.isLower = true)
    (hrest : ∀ c ∈ rest, isSchemeChar c = true) (tail : List Char) :
    stripScheme (first :: rest ++ "://".toList ++ tail) = tail := by
  have hafter : (rest ++ "://".toList ++ tail).dropWhile isSchemeChar = "://".toList ++ tail := by
    rw [List.append_assoc, List.dropWhile_append_of_pos hrest]
    exact List.dropWhile_cons_of_neg (by decide)
  rw [List.cons_append, List.cons_append, stripScheme, hafter]
  simp [hfirst]

/-- What is no scheme stays: behind its first characters there are no marks. -/
theorem stripScheme_of_plain {text tail : List Char} (hne : text ≠ [])
    (htext : ∀ c ∈ text, isSchemeChar c = true)
    (htail : ¬ "://".toList <+: tail.dropWhile isSchemeChar) :
    stripScheme (text ++ tail) = text ++ tail := by
  obtain ⟨c, cs, rfl⟩ := List.exists_cons_of_ne_nil hne
  have hafter : (cs ++ tail).dropWhile isSchemeChar = tail.dropWhile isSchemeChar :=
    List.dropWhile_append_of_pos fun d hd => htext d (by simp [hd])
  rw [List.cons_append, stripScheme, hafter, if_neg]
  rw [Bool.and_eq_true, List.isPrefixOf_iff_prefix]
  exact fun h => htail h.2

namespace Spelling

variable (s : Spelling)

/-- Behind a hostname no marks of a scheme stand: a port has a digit behind its colon. -/
theorem not_marks {rest : List Char} (hrest : IsRest rest) :
    ¬ "://".toList <+: (s.dotText ++ (s.portText ++ rest)).dropWhile isSchemeChar := by
  have hdot : ∀ c ∈ s.dotText, isSchemeChar c = true := by
    unfold dotText
    split <;> simp [isSchemeChar]
  rw [List.dropWhile_append_of_pos hdot]
  unfold portText
  cases hport : s.port with
  | none =>
      rcases hrest with rfl | ⟨path, rfl⟩
      · simp
      · rw [List.nil_append, List.dropWhile_cons_of_neg (by decide)]
        simp
  | some ds =>
      obtain ⟨hne, hdigits⟩ := s.port_digits ds hport
      obtain ⟨d, ds, rfl⟩ := List.exists_cons_of_ne_nil hne
      have hd : d ≠ '/' := by
        rintro rfl
        exact absurd (hdigits '/' (by simp)) (by decide)
      dsimp only
      rw [List.cons_append, List.dropWhile_cons_of_neg (by decide)]
      simp [Ne.symm hd]

theorem stripScheme_core (name : Hostname) {rest : List Char} (hrest : IsRest rest) :
    stripScheme (s.schemeText.map Char.toLower ++ (name.text ++ s.dotText ++ s.portText) ++ rest) =
      name.text ++ s.dotText ++ s.portText ++ rest := by
  unfold schemeText
  cases s.scheme with
  | none =>
      have hplain := stripScheme_of_plain name.text_ne_nil
        (fun c hc => (name.isPlain_text hc).scheme) (s.not_marks hrest)
      simpa using hplain
  | some scheme =>
      have hmarks := stripScheme_marks scheme.first_toLower
        (List.forall_mem_map.2 scheme.rest_toLower)
        (name.text ++ s.dotText ++ s.portText ++ rest)
      simpa using hmarks

/-- The host name ends before the port and the path. -/
theorem takeWhile_core (name : Hostname) {rest : List Char} (hrest : IsRest rest) :
    ((name.text ++ s.dotText ++ s.portText ++ rest).takeWhile (· ≠ '/')).takeWhile (· ≠ ':') =
      name.text ++ s.dotText := by
  have hdot : ∀ c ∈ s.dotText, c ≠ '/' ∧ c ≠ ':' := by
    unfold dotText
    split <;> simp
  have hport : ∀ c ∈ s.portText, c ≠ '/' := by
    unfold portText
    cases hport : s.port with
    | none => simp
    | some ds =>
        intro c hc
        rcases List.mem_cons.1 hc with rfl | hc
        · decide
        · exact (isPlain_of_isHostChar (s.isHostChar_port hport c hc)).slash
  have hhost : ∀ c ∈ name.text ++ s.dotText, c ≠ '/' ∧ c ≠ ':' := by
    intro c hc
    rcases List.mem_append.1 hc with hc | hc
    · exact ⟨(name.isPlain_text hc).slash, (name.isPlain_text hc).colon⟩
    · exact hdot c hc
  have hslash : ∀ c ∈ name.text ++ s.dotText ++ s.portText, decide (c ≠ '/') = true := by
    intro c hc
    rcases List.mem_append.1 hc with hc | hc
    · exact decide_eq_true (hhost c hc).1
    · exact decide_eq_true (hport c hc)
  rw [List.takeWhile_append_of_pos hslash, hrest.takeWhile, List.append_nil,
    List.takeWhile_append_of_pos fun c hc => decide_eq_true (hhost c hc).2]
  unfold portText
  cases s.port <;> simp

theorem hostOf_spell {name : Hostname} {text : List Char} (h : text.map Char.toLower = name.text) :
    hostOf (s.spell text) = name.text := by
  have hne : text ≠ [] := by
    rintro rfl
    exact name.text_ne_nil h.symm
  have hsolid : ∀ c ∈ text, IsSolid c := by
    intro c hc
    have hlower : c.toLower ∈ name.text := by
      rw [← h]
      exact List.mem_map_of_mem hc
    exact isSolid_of_isSchemeChar (name.isPlain_text hlower).scheme
  obtain ⟨rest, hrest, htrim⟩ := s.trim_spell hne hsolid
  unfold hostOf
  rw [htrim, toLowerCase_append, s.toLowerCase_core hsolid, h,
    s.stripScheme_core name hrest.toLowerCase]
  dsimp only
  rw [s.takeWhile_core name hrest.toLowerCase]
  unfold dotText
  split <;> simp [name.getLast?_text]

end Spelling

/-! ## main results -/

/-- A hostname written as it is. -/
def Spelling.plain : Spelling where
  before_blank := by simp
  port_digits := by simp
  after_blank := by simp

/-- **Normalizing**: what is entered is refused, or taken as a hostname, which normalizes to
itself; and every spelling of a hostname, in letters of either case, normalizes to it. -/
theorem normalizeDomain_sound :
    (∀ input, normalizeDomain input = none ∨ ∃ name : Hostname,
      normalizeDomain input = some name.text ∧ normalizeDomain name.text = some name.text) ∧
    ∀ (name : Hostname) (s : Spelling) (text : List Char), text.map Char.toLower = name.text →
      normalizeDomain (s.spell text) = some name.text := by
  have hspell (name : Hostname) (s : Spelling) (text : List Char)
      (h : text.map Char.toLower = name.text) :
      normalizeDomain (s.spell text) = some name.text :=
    normalizeDomain_of_hostOf (s.hostOf_spell h)
  refine ⟨fun input => ?_, hspell⟩
  cases hinput : normalizeDomain input with
  | none => exact .inl rfl
  | some host =>
      obtain ⟨name, rfl⟩ := exists_of_normalizeDomain hinput
      have hlower : name.text.map Char.toLower = name.text := by
        rw [List.map_congr_left fun c hc => (name.isPlain_text hc).lower]
        exact List.map_id _
      refine .inr ⟨name, rfl, ?_⟩
      simpa [Spelling.spell, Spelling.plain, Spelling.schemeText, Spelling.dotText,
        Spelling.portText, Spelling.pathText] using hspell name .plain name.text hlower

/-- `status.acme.com`. -/
def acme : Hostname where
  labels := ["status".toList, "acme".toList]
  top := "com".toList
  ne_nil := by simp
  isLabel l hl := by
    have hall : ["status".toList, "acme".toList, "com".toList].all Domains.isLabel = true := by
      decide
    exact isLabel_iff.1 (List.all_eq_true.1 hall l hl)
  isTop := isTld_iff.1 (by decide)
  short := by decide

/-- All that can be added to it, at once. -/
def pasted : Spelling where
  before := " ".toList
  scheme := some ⟨'H', "TTPS".toList, by decide, by simp⟩
  dot := true
  port := some "8443".toList
  path := some "x?y=:/".toList
  after := "\n".toList
  before_blank := by simp [Js.isSpace]
  port_digits := by simp
  after_blank := by simp [Js.isSpace]

theorem normalizeDomain_sound_acme :
    pasted.spell "Status.ACME.com".toList = " HTTPS://Status.ACME.com.:8443/x?y=:/\n".toList ∧
    normalizeDomain (pasted.spell "Status.ACME.com".toList) = some "status.acme.com".toList :=
  ⟨by decide, normalizeDomain_sound.2 acme pasted "Status.ACME.com".toList (by decide)⟩

end UptimeFlow.StatusPages.Domains
