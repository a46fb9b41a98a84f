import Mathlib.Data.List.Forall2
import UptimeFlow.Js
import UptimeFlow.Replacing

/-!
# UptimeFlow.Markup

Documents with tags, and the templates they are made from.

A reader of the document stands in the text, in a tag, or in a quoted value of
an attribute.  What it reads are the tags, each as it is written, and the runs
of text between them, in which character references are decoded.

A template is literal text with holes: values, which are escaped, and addresses,
which are put in as they are.  Where the reader stands at a hole follows from
the literals alone (`Template.Sound`).  If every value stands in the text and
every address in the text or in a quoted attribute, then the tags do not depend
on the values (`tags_render`) and the text shows them as they are
(`runs_render`).
-/

namespace UptimeFlow.Markup

/-! ## reading a document -/

inductive State where
  | text
  | tag
  /-- In the value of an attribute, up to this quote. -/
  | quoted (quote : Char)
deriving DecidableEq, Repr

def State.next : State → Char → State
  | .text, c => if c = '<' then .tag else .text
  | .tag, c => if c = '>' then .text else if c = '"' ∨ c = '\'' then .quoted c else .tag
  | .quoted quote, c => if c = quote then .tag else .quoted quote

def State.after (s : State) (cs : List Char) : State := cs.foldl State.next s

/-- The contents of the tags of a text; `behind` are those of what follows it, of which the first
goes on with a tag that the text leaves open. -/
def tags : State → List Char → List (List Char) → List (List Char)
  | _, [], behind => behind
  | .text, c :: cs, behind => tags (State.text.next c) cs behind
  | .tag, c :: cs, behind =>
      if c = '>' then [] :: tags .text cs behind
      else (tags (State.tag.next c) cs behind).modifyHead (c :: ·)
  | .quoted quote, c :: cs, behind =>
      (tags ((State.quoted quote).next c) cs behind).modifyHead (c :: ·)

/-- The runs of text between the tags; the first of those `behind` goes on with the run that the
text ends in. -/
def runs : State → List Char → List (List Char) → List (List Char)
  | _, [], behind => behind
  | .text, c :: cs, behind =>
      if c = '<' then [] :: runs .tag cs behind else (runs .text cs behind).modifyHead (c :: ·)
  | .tag, c :: cs, behind => runs (State.tag.next c) cs behind
  | .quoted quote, c :: cs, behind => runs ((State.quoted quote).next c) cs behind

/-- The tags of a document: names, attributes and values as they are written. -/
def tagsOf (html : List Char) : List (List Char) := tags .text html []

/-- The runs of text of a document. -/
def runsOf (html : List Char) : List (List Char) := runs .text html [[]]

example : tagsOf "<a href=\"x>y\">go</a> on".toList = ["a href=\"x>y\"".toList, "/a".toList] ∧
    runsOf "<a href=\"x>y\">go</a> on".toList = [[], "go".toList, " on".toList] := by decide

variable {s : State} {c : Char} {xs ys cs : List Char} {behind : List (List Char)}

/-- A text is read piece by piece. -/
theorem tags_append (s : State) (xs ys : List Char) (behind : List (List Char)) :
    tags s (xs ++ ys) behind = tags s xs (tags (s.after xs) ys behind) := by
  induction xs generalizing s with
  | nil => rfl
  | cons c xs ih =>
      cases s with
      | text => exact ih _
      | tag =>
          rw [List.cons_append, tags, tags]
          split
          · next hc =>
            subst hc
            rw [ih]
            rfl
          · rw [ih]
            rfl
      | quoted quote =>
          rw [List.cons_append, tags, tags, ih]
          rfl

theorem runs_append (s : State) (xs ys : List Char) (behind : List (List Char)) :
    runs s (xs ++ ys) behind = runs s xs (runs (s.after xs) ys behind) := by
  induction xs generalizing s with
  | nil => rfl
  | cons c xs ih =>
      cases s with
      | text =>
          rw [List.cons_append, runs, runs]
          split
          · next hc =>
            subst hc
            rw [ih]
            rfl
          · next hc =>
            have hnext : State.text.after (c :: xs) = State.text.after xs := by
              simp [State.after, State.next, hc]
            rw [ih, hnext]
      | tag => exact ih _
      | quoted quote => exact ih _

/-! ## what leaves the reader where it is -/

theorem next_text (h : c ≠ '<') : State.text.next c = .text := if_neg h

theorem next_quoted {quote : Char} (h : c ≠ quote) :
    (State.quoted quote).next c = .quoted quote := if_neg h

theorem after_text (h : '<' ∉ cs) : State.text.after cs = .text := by
  induction cs with
  | nil => rfl
  | cons c cs ih =>
      obtain ⟨hc, hcs⟩ := not_or.1 (mt List.mem_cons.2 h)
      rw [State.after, List.foldl_cons, next_text (Ne.symm hc)]
      exact ih hcs

theorem after_quoted {quote : Char} (h : quote ∉ cs) :
    (State.quoted quote).after cs = .quoted quote := by
  induction cs with
  | nil => rfl
  | cons c cs ih =>
      obtain ⟨hc, hcs⟩ := not_or.1 (mt List.mem_cons.2 h)
      rw [State.after, List.foldl_cons, next_quoted (Ne.symm hc)]
      exact ih hcs

theorem tags_text (h : '<' ∉ cs) (behind : List (List Char)) : tags .text cs behind = behind := by
  induction cs with
  | nil => rfl
  | cons c cs ih =>
      obtain ⟨hc, hcs⟩ := not_or.1 (mt List.mem_cons.2 h)
      show tags (State.text.next c) cs behind = behind
      rw [next_text (Ne.symm hc), ih hcs]

theorem tags_quoted {quote : Char} (h : quote ∉ cs) (tag : List Char) (rest : List (List Char)) :
    tags (.quoted quote) cs (tag :: rest) = (cs ++ tag) :: rest := by
  induction cs with
  | nil => rfl
  | cons c cs ih =>
      obtain ⟨hc, hcs⟩ := not_or.1 (mt List.mem_cons.2 h)
      show (tags ((State.quoted quote).next c) cs (tag :: rest)).modifyHead (c :: ·) = _
      rw [next_quoted (Ne.symm hc), ih hcs]
      rfl

theorem runs_text (h : '<' ∉ cs) (behind : List (List Char)) (hbehind : behind ≠ []) :
    runs .text cs behind = behind.modifyHead (cs ++ ·) := by
  induction cs with
  | nil =>
      obtain ⟨run, rest, rfl⟩ := List.exists_cons_of_ne_nil hbehind
      rfl
  | cons c cs ih =>
      obtain ⟨hc, hcs⟩ := not_or.1 (mt List.mem_cons.2 h)
      obtain ⟨run, rest, rfl⟩ := List.exists_cons_of_ne_nil hbehind
      show (if c = '<' then _ else (runs .text cs (run :: rest)).modifyHead (c :: ·)) = _
      rw [if_neg (Ne.symm hc), ih hcs]
      rfl

theorem runs_quoted {quote : Char} (h : quote ∉ cs) (behind : List (List Char)) :
    runs (.quoted quote) cs behind = behind := by
  induction cs with
  | nil => rfl
  | cons c cs ih =>
      obtain ⟨hc, hcs⟩ := not_or.1 (mt List.mem_cons.2 h)
      show runs ((State.quoted quote).next c) cs behind = behind
      rw [next_quoted (Ne.symm hc), ih hcs]

theorem runs_ne_nil (s : State) (cs : List Char) (hbehind : behind ≠ []) :
    runs s cs behind ≠ [] := by
  induction cs generalizing s with
  | nil => exact hbehind
  | cons c cs ih =>
      cases s with
      | text =>
          rw [runs]
          split
          · exact List.cons_ne_nil _ _
          · obtain ⟨run, rest, heq⟩ := List.exists_cons_of_ne_nil (ih .text)
            rw [heq]
            exact List.cons_ne_nil _ _
      | tag => exact ih _
      | quoted quote => exact ih _

/-! ## character references -/

/-- The character a reference is for, by what stands between `&` and `;`. -/
def reference : List Char → Option Char
  | '#' :: digits =>
      if digits ≠ [] ∧ digits.all Char.isDigit then some (Char.ofNat (Js.parseDecimal digits)) else none
  | name =>
      [("amp".toList, '&'), ("lt".toList, '<'), ("gt".toList, '>'), ("quot".toList, '"'),
        ("apos".toList, '\'')].lookup name

/-- The state of `decode`: what is left to skip of a reference. -/
def decodeFrom : Nat → List Char → List Char
  | _, [] => []
  | skip + 1, _ :: cs => decodeFrom skip cs
  | 0, c :: cs =>
      let name := cs.takeWhile (· ≠ ';')
      match if c = '&' ∧ name.length < cs.length then reference name else none with
      | some d => d :: decodeFrom (name.length + 1) cs
      | none => c :: decodeFrom 0 cs

/-- A run of text as it is shown: what is no reference stays as it is. -/
def decode (cs : List Char) : List Char := decodeFrom 0 cs

example : decode "a &lt; b&#39;s &amp;amp; &nosuch; &".toList = "a < b's &amp; &nosuch; &".toList := by
  decide +kernel

theorem decodeFrom_eq_drop (skip : Nat) (cs : List Char) :
    decodeFrom skip cs = decode (cs.drop skip) := by
  induction skip generalizing cs with
  | zero => rfl
  | succ skip ih =>
      cases cs with
      | nil => rfl
      | cons c cs => exact ih cs

theorem decode_cons_of_ne (h : c ≠ '&') (cs : List Char) : decode (c :: cs) = c :: decode cs := by
  have hno : ¬ (c = '&' ∧ (cs.takeWhile (· ≠ ';')).length < cs.length) := fun hc => h hc.1
  simp only [decode, decodeFrom, if_neg hno]

theorem decode_reference {name : List Char} {d : Char} (hname : ';' ∉ name)
    (hd : reference name = some d) (rest : List Char) :
    decode ('&' :: (name ++ ';' :: rest)) = d :: decode rest := by
  have htake : (name ++ ';' :: rest).takeWhile (· ≠ ';') = name := by
    rw [List.takeWhile_append_of_pos fun c hc => by
      simp only [decide_eq_true_eq]
      rintro rfl
      exact hname hc]
    simp
  have hshort : name.length < (name ++ ';' :: rest).length := by simp
  rw [decode, decodeFrom]
  simp only [htake, hshort, and_self, if_true, hd]
  rw [decodeFrom_eq_drop]
  simp [← List.drop_drop]

theorem map_decode_modifyHead (h : c ≠ '&') (rs : List (List Char)) :
    (rs.modifyHead (c :: ·)).map decode = (rs.map decode).modifyHead (c :: ·) := by
  cases rs with
  | nil => rfl
  | cons run rs =>
      rw [List.modifyHead_cons, List.map_cons, decode_cons_of_ne h]
      rfl

/-- Text without references is shown as it is. -/
theorem map_decode_runs (h : '&' ∉ cs) (s : State) (behind : List (List Char)) :
    (runs s cs behind).map decode = runs s cs (behind.map decode) := by
  induction cs generalizing s with
  | nil => rfl
  | cons c cs ih =>
      obtain ⟨hc, hcs⟩ := not_or.1 (mt List.mem_cons.2 h)
      cases s with
      | text =>
          rw [runs, runs]
          split
          · rw [List.map_cons, ih hcs]
            rfl
          · rw [map_decode_modifyHead (Ne.symm hc), ih hcs]
      | tag => exact ih hcs _
      | quoted quote => exact ih hcs _

/-! ## templates -/

inductive Piece where
  | literal (cs : List Char)
  /-- A value, which is escaped. -/
  | value (cs : List Char)
  /-- An address, which is put in as it is. -/
  | address (cs : List Char)
deriving DecidableEq, Repr

abbrev Template := List Piece

namespace Template

/-- The document, given how values are escaped. -/
def render (escape : List Char → List Char) : Template → List Char
  | [] => []
  | .literal cs :: t => cs ++ render escape t
  | .value cs :: t => escape cs ++ render escape t
  | .address cs :: t => cs ++ render escape t

def values : Template → List (List Char)
  | [] => []
  | .value cs :: t => cs :: values t
  | .literal _ :: t | .address _ :: t => values t

def addresses : Template → List (List Char)
  | [] => []
  | .address cs :: t => cs :: addresses t
  | .literal _ :: t | .value _ :: t => addresses t

/-- What follows starts with a tag. -/
def opensTag : Template → Bool
  | .literal cs :: _ => cs.head? = some '<'
  | _ => false

/-- Where the reader stands at the holes: at a value in the text, at an address in a quoted attribute
or in the text up to the next tag. -/
def sound : State → Template → Bool
  | s, [] => s = .text
  | s, .literal cs :: t => !cs.contains '&' && sound (s.after cs) t
  | s, .value _ :: t => s = .text && sound s t
  | s, .address _ :: t => (s = .quoted '"' || s = .text && opensTag t) && sound s t

/-- The tags, whatever the values are. -/
def tagsIn : State → Template → List (List Char) → List (List Char)
  | _, [], behind => behind
  | s, .literal cs :: t, behind => tags s cs (tagsIn (s.after cs) t behind)
  | s, .value _ :: t, behind => tagsIn s t behind
  | s, .address cs :: t, behind => tags s cs (tagsIn s t behind)

/-- The runs of text, the values as they are. -/
def shown : State → Template → List (List Char)
  | _, [] => [[]]
  | s, .literal cs :: t => runs s cs (shown (s.after cs) t)
  | s, .value cs :: t => (shown s t).modifyHead (cs ++ ·)
  | s, .address cs :: t =>
      if s = .text then (shown s t).modifyHead (decode cs ++ ·) else shown s t

end Template

/-- An address that ends neither the text nor the attribute it stands in. -/
structure Address (cs : List Char) : Prop where
  opens : '<' ∉ cs
  closes : '>' ∉ cs
  quote : '"' ∉ cs

/-- Escaped texts open no tag, and are decoded to what they were. -/
structure Escape (escape : List Char → List Char) : Prop where
  opens : ∀ cs, '<' ∉ escape cs
  decodes : ∀ cs rest, decode (escape cs ++ rest) = cs ++ decode rest

/-- What stands between the `&` and the `;` of a reference. -/
def nameOf (text : List Char) : List Char := text.tail.dropLast

/-- The text is a reference to the character. -/
def refersTo (r : Char × List Char) : Bool :=
  r.2 = '&' :: (nameOf r.2 ++ [';']) && !(nameOf r.2).contains ';' && !r.2.contains '<' &&
    reference (nameOf r.2) = some r.1

theorem decode_refersTo {r : Char × List Char} (h : refersTo r = true) (rest : List Char) :
    decode (r.2 ++ rest) = r.1 :: decode rest := by
  simp only [refersTo, Bool.and_eq_true, decide_eq_true_eq] at h
  obtain ⟨⟨⟨htext, hname⟩, -⟩, href⟩ := h
  rw [htext, List.cons_append, List.append_assoc]
  exact decode_reference (by simpa using hname) href rest

/-- **Replacing by references is an escape**, if `&` and `<` are replaced and none replaces in what
an earlier one put in. -/
theorem Escape.of_refersTo {rs : List (Char × List Char)}
    (hrs : rs.Pairwise fun r later => later.1 ∉ r.2) (href : rs.all refersTo = true)
    (hand : '&' ∈ rs.map Prod.fst) (hopen : '<' ∈ rs.map Prod.fst) :
    Escape (Js.replaceEach rs) where
  opens cs := by
    refine Js.not_mem_replaceEach (fun r hr => ?_) hopen
    have hr := List.all_eq_true.1 href r hr
    simp only [refersTo, Bool.and_eq_true] at hr
    simpa using hr.1.2
  decodes cs rest := by
    rw [Js.replaceEach_eq_flatMap hrs]
    induction cs with
    | nil => rfl
    | cons c cs ih =>
        rw [List.flatMap_cons, List.append_assoc]
        by_cases hc : c ∈ rs.map Prod.fst
        · obtain ⟨text, hmem, htext⟩ := Js.exists_of_replaced hc
          rw [htext, decode_refersTo (List.all_eq_true.1 href _ hmem), ih]
          rfl
        · have hne : c ≠ '&' := by
            rintro rfl
            exact hc hand
          rw [Js.replaced_of_not_mem hc, List.singleton_append, decode_cons_of_ne hne, ih]
          rfl

namespace Template

variable {escape : List Char → List Char} {s : State} {t u : Template}

theorem sound_literal (s : State) (cs : List Char) (t : Template) :
    sound s (.literal cs :: t) = (!cs.contains '&' && sound (s.after cs) t) := rfl

theorem sound_value (s : State) (cs : List Char) (t : Template) :
    sound s (.value cs :: t) = (decide (s = .text) && sound s t) := rfl

theorem sound_address (s : State) (cs : List Char) (t : Template) :
    sound s (.address cs :: t) =
      ((decide (s = .quoted '"') || decide (s = .text) && opensTag t) && sound s t) := rfl

theorem values_append (t u : Template) : values (t ++ u) = values t ++ values u := by
  induction t with
  | nil => rfl
  | cons p t ih => cases p <;> simp [values, ih]

theorem addresses_append (t u : Template) : addresses (t ++ u) = addresses t ++ addresses u := by
  induction t with
  | nil => rfl
  | cons p t ih => cases p <;> simp [addresses, ih]

theorem opensTag_append (h : opensTag t = true) (u : Template) : opensTag (t ++ u) = true := by
  cases t with
  | nil => cases h
  | cons p t => cases p <;> exact h

/-- Templates that start and end in the text are sound one after the other. -/
theorem sound_append (ht : sound s t = true) (hu : sound .text u = true) :
    sound s (t ++ u) = true := by
  induction t generalizing s with
  | nil =>
      obtain rfl := of_decide_eq_true ht
      exact hu
  | cons p t ih =>
      cases p with
      | literal cs =>
          simp only [List.cons_append, sound_literal, Bool.and_eq_true] at ht ⊢
          exact ⟨ht.1, ih ht.2⟩
      | value cs =>
          simp only [List.cons_append, sound_value, Bool.and_eq_true] at ht ⊢
          exact ⟨ht.1, ih ht.2⟩
      | address cs =>
          simp only [List.cons_append, sound_address, Bool.and_eq_true, Bool.or_eq_true,
            decide_eq_true_eq] at ht ⊢
          obtain ⟨hquoted | ⟨htext, hopens⟩, hrest⟩ := ht
          · exact ⟨.inl hquoted, ih hrest⟩
          · exact ⟨.inr ⟨htext, opensTag_append hopens u⟩, ih hrest⟩

/-- The template with its holes empty. -/
def hollow : Template → Template
  | [] => []
  | .literal cs :: t => .literal cs :: hollow t
  | .value _ :: t => .value [] :: hollow t
  | .address _ :: t => .address [] :: hollow t

theorem opensTag_hollow (t : Template) : opensTag (hollow t) = opensTag t := by
  cases t with
  | nil => rfl
  | cons p t => cases p <;> rfl

/-- The tags of one template and then another. -/
theorem tagsIn_append (ht : sound s t = true) (u : Template) (behind : List (List Char)) :
    tagsIn s (t ++ u) behind = tagsIn s t (tagsIn .text u behind) := by
  induction t generalizing s with
  | nil =>
      obtain rfl := of_decide_eq_true ht
      rfl
  | cons p t ih =>
      cases p with
      | literal cs =>
          rw [sound_literal, Bool.and_eq_true] at ht
          rw [List.cons_append, tagsIn, tagsIn, ih ht.2]
      | value cs =>
          rw [sound_value, Bool.and_eq_true] at ht
          exact ih ht.2
      | address cs =>
          rw [sound_address, Bool.and_eq_true] at ht
          rw [List.cons_append, tagsIn, tagsIn, ih ht.2]

/-- What is put into the holes does not matter. -/
theorem sound_hollow (s : State) (t : Template) : sound s (hollow t) = sound s t := by
  induction t generalizing s with
  | nil => rfl
  | cons p t ih => cases p <;> simp [hollow, sound_literal, sound_value, sound_address, ih,
      opensTag_hollow]

/-- The reader stands behind an address where it stood before it. -/
theorem after_address {cs : List Char} (h : sound s (.address cs :: t) = true) (hcs : Address cs) :
    s.after cs = s := by
  simp only [sound_address, Bool.and_eq_true, Bool.or_eq_true, decide_eq_true_eq] at h
  obtain ⟨rfl | ⟨rfl, -⟩, -⟩ := h
  · exact after_quoted hcs.quote
  · exact after_text hcs.opens

/-- **No value makes or breaks a tag.** -/
theorem tags_render (hescape : Escape escape) (h : sound s t = true)
    (haddresses : ∀ cs ∈ addresses t, Address cs) (behind : List (List Char)) :
    tags s (render escape t) behind = tagsIn s t behind := by
  induction t generalizing s with
  | nil => cases s <;> rfl
  | cons p t ih =>
      cases p with
      | literal cs =>
          rw [sound_literal, Bool.and_eq_true] at h
          rw [render, tags_append, ih h.2 haddresses]
          rfl
      | value cs =>
          rw [sound_value, Bool.and_eq_true] at h
          obtain rfl := of_decide_eq_true h.1
          rw [render, tags_append, tags_text (hescape.opens cs), after_text (hescape.opens cs),
            ih h.2 haddresses]
          rfl
      | address cs =>
          obtain ⟨hcs, haddresses⟩ := List.forall_mem_cons.1 haddresses
          rw [render, tags_append, after_address h hcs]
          rw [sound_address, Bool.and_eq_true] at h
          rw [ih h.2 haddresses]
          rfl

theorem shown_ne_nil (s : State) (t : Template) : shown s t ≠ [] := by
  induction t generalizing s with
  | nil => exact List.cons_ne_nil _ _
  | cons p t ih =>
      cases p with
      | literal cs => exact runs_ne_nil _ _ (ih _)
      | value cs =>
          obtain ⟨run, rest, heq⟩ := List.exists_cons_of_ne_nil (ih s)
          rw [shown, heq]
          exact List.cons_ne_nil _ _
      | address cs =>
          obtain ⟨run, rest, heq⟩ := List.exists_cons_of_ne_nil (ih s)
          rw [shown]
          split
          · rw [heq]
            exact List.cons_ne_nil _ _
          · exact ih s

/-- Up to the next tag there is nothing behind an address. -/
theorem runs_render_opensTag (escape : List Char → List Char) (h : opensTag t = true) :
    ∃ rest, runs .text (render escape t) [[]] = [] :: rest := by
  unfold opensTag at h
  split at h
  · next cs t =>
    obtain ⟨cs, rfl⟩ := List.head?_eq_some_iff.1 (of_decide_eq_true h)
    exact ⟨_, rfl⟩
  · cases h

/-- **The text shows the values as they are**, once its references are decoded. -/
theorem runs_render (hescape : Escape escape) (h : sound s t = true)
    (haddresses : ∀ cs ∈ addresses t, Address cs) :
    (runs s (render escape t) [[]]).map decode = shown s t := by
  induction t generalizing s with
  | nil => cases s <;> rfl
  | cons p t ih =>
      cases p with
      | literal cs =>
          rw [sound_literal, Bool.and_eq_true] at h
          have hand : '&' ∉ cs := by simpa using h.1
          rw [render, runs_append, map_decode_runs hand, ih h.2 haddresses]
          rfl
      | value cs =>
          rw [sound_value, Bool.and_eq_true] at h
          obtain rfl := of_decide_eq_true h.1
          have hbehind := ih h.2 haddresses
          rw [render, runs_append, after_text (hescape.opens cs),
            runs_text (hescape.opens cs) _ (runs_ne_nil _ _ (List.cons_ne_nil _ _)), shown, ← hbehind]
          cases runs .text (render escape t) [[]] with
          | nil => rfl
          | cons run rest =>
              rw [List.modifyHead_cons, List.map_cons, hescape.decodes]
              rfl
      | address cs =>
          obtain ⟨hcs, haddresses⟩ := List.forall_mem_cons.1 haddresses
          rw [render, runs_append, after_address h hcs]
          simp only [sound_address, Bool.and_eq_true, Bool.or_eq_true, decide_eq_true_eq] at h
          obtain ⟨rfl | ⟨rfl, hopens⟩, hsound⟩ := h
          · rw [runs_quoted hcs.quote, ih hsound haddresses]
            rfl
          · have hbehind := ih hsound haddresses
            obtain ⟨rest, hrest⟩ := runs_render_opensTag escape hopens
            rw [shown, if_pos rfl, ← hbehind, hrest, runs_text hcs.opens _ (List.cons_ne_nil _ _)]
            rw [List.modifyHead_cons, List.append_nil, List.map_cons, List.map_cons]
            have hnil : decode [] = [] := rfl
            rw [hnil, List.modifyHead_cons, List.append_nil]

/-! ## fragments -/

/-- A template that starts and ends in the text, with these tags and no address that breaks one. -/
structure Fragment (t : Template) (own : List (List Char)) : Prop where
  sound : sound .text t = true
  tags : ∀ behind, tagsIn .text t behind = own ++ behind
  addresses : ∀ cs ∈ addresses t, Address cs

theorem Fragment.nil : Fragment [] [] :=
  ⟨rfl, fun _ => rfl, fun _ hcs => absurd hcs List.not_mem_nil⟩

theorem Fragment.literal {cs : List Char} {own : List (List Char)}
    (hsound : Template.sound .text [.literal cs] = true)
    (htags : ∀ behind, Markup.tags .text cs behind = own ++ behind) :
    Fragment [.literal cs] own :=
  ⟨hsound, htags, fun _ hcs => absurd hcs List.not_mem_nil⟩

theorem Fragment.value (cs : List Char) : Fragment [.value cs] [] :=
  ⟨rfl, fun _ => rfl, fun _ hcs => absurd hcs List.not_mem_nil⟩

theorem Fragment.append {own own' : List (List Char)} (ht : Fragment t own)
    (hu : Fragment u own') : Fragment (t ++ u) (own ++ own') where
  sound := sound_append ht.sound hu.sound
  tags behind := by rw [tagsIn_append ht.sound, hu.tags, ht.tags, List.append_assoc]
  addresses cs hcs := by
    rw [addresses_append] at hcs
    rcases List.mem_append.1 hcs with hcs | hcs
    · exact ht.addresses cs hcs
    · exact hu.addresses cs hcs

/-- Fragments joined by one without tags have their tags one after the other. -/
theorem Fragment.intercalate {sep : Template} (hsep : Fragment sep []) {ts : List Template}
    {owns : List (List (List Char))} (hts : List.Forall₂ Fragment ts owns) :
    Fragment (sep.intercalate ts) owns.flatten := by
  induction hts with
  | nil => exact .nil
  | @cons t own ts owns ht hts ih =>
      cases hts with
      | nil => simpa using ht
      | cons hu hts =>
          rw [List.intercalate_cons_cons, List.flatten_cons]
          have hjoined := (ht.append hsep).append ih
          rwa [List.append_nil] at hjoined

theorem values_subset_intercalate {sep : Template} {ts : List Template} (ht : t ∈ ts) :
    values t ⊆ values (sep.intercalate ts) := by
  induction ts with
  | nil => cases ht
  | cons u ts ih =>
      cases ts with
      | nil =>
          obtain rfl := List.mem_singleton.1 ht
          simp
      | cons v ts =>
          rw [List.intercalate_cons_cons, values_append, values_append]
          rcases List.mem_cons.1 ht with rfl | ht
          · exact List.subset_append_of_subset_left _ (List.subset_append_left _ _)
          · exact List.subset_append_of_subset_right _ (ih ht)

/-- **A fragment's document has the fragment's tags.** -/
theorem Fragment.tagsOf_render {own : List (List Char)} (ht : Fragment t own)
    (hescape : Escape escape) : tagsOf (render escape t) = own := by
  rw [tagsOf, tags_render hescape ht.sound ht.addresses, ht.tags, List.append_nil]

/-! ## outlines and values -/

/-- The template without its values. -/
def outline : Template → Template
  | [] => []
  | .value _ :: t => .value [] :: outline t
  | .literal cs :: t => .literal cs :: outline t
  | .address cs :: t => .address cs :: outline t

theorem tagsIn_outline (s : State) (t : Template) (behind : List (List Char)) :
    tagsIn s (outline t) behind = tagsIn s t behind := by
  induction t generalizing s with
  | nil => rfl
  | cons p t ih => cases p <;> simp [outline, tagsIn, ih]

/-- **Two documents of one outline have the same tags.** -/
theorem tags_render_congr (hescape : Escape escape) (ht : sound s t = true)
    (hu : sound s u = true) (haddresses : ∀ cs ∈ addresses t, Address cs)
    (houtline : outline t = outline u) :
    tags s (render escape t) [] = tags s (render escape u) [] := by
  have haddresses' : addresses t = addresses u := by
    have hkeep : ∀ t : Template, addresses (outline t) = addresses t := by
      intro t
      induction t with
      | nil => rfl
      | cons p t ih => cases p <;> simp [outline, addresses, ih]
    rw [← hkeep t, houtline, hkeep]
  rw [tags_render hescape ht haddresses, tags_render hescape hu (haddresses' ▸ haddresses),
    ← tagsIn_outline s t, houtline, tagsIn_outline]

/-- A text stands in one of the runs. -/
def Shows (rs : List (List Char)) (cs : List Char) : Prop := ∃ run ∈ rs, cs <:+: run

theorem Shows.modifyHead {rs : List (List Char)} {cs : List Char} (h : Shows rs cs)
    (xs : List Char) : Shows (rs.modifyHead (xs ++ ·)) cs := by
  obtain ⟨run, hrun, hin⟩ := h
  cases rs with
  | nil => cases hrun
  | cons first rs =>
      rcases List.mem_cons.1 hrun with rfl | hrun
      · exact ⟨xs ++ run, List.mem_cons_self, hin.trans (List.suffix_append xs run).isInfix⟩
      · exact ⟨run, List.mem_cons_of_mem _ hrun, hin⟩

theorem Shows.runs {behind : List (List Char)} {cs : List Char} (h : Shows behind cs) (s : State)
    (xs : List Char) : Shows (runs s xs behind) cs := by
  induction xs generalizing s with
  | nil => exact h
  | cons c xs ih =>
      cases s with
      | text =>
          rw [Markup.runs]
          split
          · obtain ⟨run, hrun, hin⟩ := ih .tag
            exact ⟨run, List.mem_cons_of_mem _ hrun, hin⟩
          · exact (ih .text).modifyHead [c]
      | tag => exact ih _
      | quoted quote => exact ih _

/-- Every value is shown. -/
theorem shows_of_mem_values {cs : List Char} (h : cs ∈ values t) (s : State) :
    Shows (shown s t) cs := by
  induction t generalizing s with
  | nil => cases h
  | cons p t ih =>
      cases p with
      | literal ds => exact (ih h _).runs s ds
      | value ds =>
          rcases List.mem_cons.1 h with rfl | h
          · obtain ⟨run, rest, heq⟩ := List.exists_cons_of_ne_nil (shown_ne_nil s t)
            rw [shown, heq]
            exact ⟨cs ++ run, List.mem_cons_self, (List.prefix_append cs run).isInfix⟩
          · exact (ih h s).modifyHead ds
      | address ds =>
          rw [shown]
          split
          · exact (ih h s).modifyHead _
          · exact ih h s

end Template

end UptimeFlow.Markup
