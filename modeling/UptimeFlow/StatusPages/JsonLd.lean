import UptimeFlow.JsonEscaping
import UptimeFlow.Replacing

/-!
# UptimeFlow.StatusPages.JsonLd

A value as it is embedded in a script element of the public page.

HTML reads the raw text of the element before any JSON parser does, so no name
may close it, open a comment in it or break its lines.  What is replaced are
characters that JSON has only in strings, by an escape that means the same: the
text has none of them left, and is read as the same value
(`safeJsonLd_sound`).
-/

namespace UptimeFlow.StatusPages

open JsonText

/-- What is escaped, in the order of the replacements. -/
def jsonLdEscapes : List (Char × List Char) :=
  [('<', "\\u003c".toList), ('>', "\\u003e".toList), ('&', "\\u0026".toList),
    ('\u2028', "\\u2028".toList), ('\u2029', "\\u2029".toList)]

/-- Serialize a value for embedding inside `<script type="application/ld+json">`. -/
def safeJsonLd (value : Value) : List Char := Js.replaceEach jsonLdEscapes value.write

def isEscaped (c : Char) : Bool := (jsonLdEscapes.map Prod.fst).contains c

theorem onlyInStrings_of_isEscaped (c : Char) (hc : isEscaped c = true) : onlyInStrings c = true := by
  have hall : (jsonLdEscapes.map Prod.fst).all onlyInStrings = true := by decide +kernel
  exact List.all_eq_true.1 hall c (List.contains_iff_mem.1 hc)

/-- Every character is replaced by its own escape. -/
theorem replaced_jsonLdEscapes (c : Char) :
    Js.replaced jsonLdEscapes c = if isEscaped c then unicodeEscape c else [c] := by
  have hall : (jsonLdEscapes.map Prod.fst).all
      (fun c => decide (Js.replaced jsonLdEscapes c = unicodeEscape c)) = true := by decide +kernel
  split
  · next hc =>
    exact of_decide_eq_true (List.all_eq_true.1 hall c (List.contains_iff_mem.1 hc))
  · next hc => exact Js.replaced_of_not_mem fun hmem => hc (List.contains_iff_mem.2 hmem)

theorem safeJsonLd_eq (value : Value) : safeJsonLd value = escapeText isEscaped value.write := by
  rw [safeJsonLd, Js.replaceEach_eq_flatMap (by decide +kernel), escapeText]
  exact List.flatMap_congr fun c _ => replaced_jsonLdEscapes c

/-- **What is embedded** has no character that HTML or a script could stop at, and is read as what
`JSON.stringify` wrote. -/
theorem safeJsonLd_sound (value : Value) :
    (∀ c ∈ ['<', '>', '&', '\u2028', '\u2029'], c ∉ safeJsonLd value) ∧
      (parse value.write).isSome = true ∧ parse (safeJsonLd value) = parse value.write := by
  refine ⟨?_, ?_, ?_⟩
  · intro c hc
    have hall : ['<', '>', '&', '\u2028', '\u2029'].all
        (fun c => jsonLdEscapes.all fun r => !r.2.contains c) = true := by decide +kernel
    have htexts := List.all_eq_true.1 (List.all_eq_true.1 hall c hc)
    refine Js.not_mem_replaceEach (fun r hr hmem => ?_) hc
    have hnot := htexts r hr
    rw [List.contains_iff_mem.2 hmem] at hnot
    cases hnot
  · rw [parse_write]
    rfl
  · rw [safeJsonLd_eq, parse_write]
    exact parse_escapeText onlyInStrings_of_isEscaped (parse_write value)

example : safeJsonLd (.string "</script>".toList) = "\"\\u003c/script\\u003e\"".toList := by
  decide +kernel

end UptimeFlow.StatusPages
