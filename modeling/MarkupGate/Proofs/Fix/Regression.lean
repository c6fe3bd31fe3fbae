import MarkupGate.Proofs.Fix.Settling

/-!
# Regression

Automatic repair is meant never to make a page worse: no rule finds more in the outcome than it
found before, and the score does not fall. A repair silences its own rule and leaves the others as
they are, and the score depends on what the rules find alone, so this holds wherever the texts are
read as they were written. There is one exception. The search for secrets does not read the markup:
it looks at characters, and those that a repair puts between others can complete what looks like a
credential.

* `improves_iff_of_keepsReading`: in a text that is read as it is written no rule but the search for
  secrets finds more, and the page gets no worse exactly if that search does not either.
* `exists_worsened`: a page that gets worse, since a repair changes how the rest of it is read.
-/

namespace MarkupGate

namespace Validator

/-- How much the rule of an identifier finds in a text. -/
def countIn (v : Validator) (id : String) (html : List Char) : Nat :=
  (v.validate (.ofSource html none none)).countRule id

/-- Whether a rule finds no more in what automatic repair makes of a text than in the text. -/
def FindsNoMore (v : Validator) (id : String) (html : List Char) : Prop :=
  v.countIn id (v.repaired html).fixed ≤ v.countIn id html

/-- What it means that the automatic repair of a text makes nothing worse. -/
structure Improves (v : Validator) (html : List Char) : Prop where
  /-- no rule finds more than before -/
  counts : ∀ rule ∈ v.catalog.rules, v.FindsNoMore rule.id html
  /-- the score does not fall -/
  score : (v.validate (.ofSource html none none)).score
    ≤ (v.validate (.ofSource (v.repaired html).fixed none none)).score

variable {scorer : Scorer} {html : List Char}

theorem countIn_standard {rule : Rule} (hrule : rule ∈ Catalog.standard.rules) (html : List Char) :
    (standard scorer).countIn rule.id html = (rule.run (.ofSource html none none)).length :=
  countRule_validate (describes_standard scorer) hrule _

theorem hardcodedSecret_mem_standard :
    Rule.hardcodedSecret SecretShape.builtin ∈ Catalog.standard.rules := by
  simp [Catalog.standard, builtinRules]

theorem findsNoMore_standard {rule : Rule} (hrule : rule ∈ Catalog.standard.rules) :
    (standard scorer).FindsNoMore rule.id html
      ↔ (rule.run (.ofSource ((standard scorer).repaired html).fixed none none)).length
        ≤ (rule.run (.ofSource html none none)).length := by
  rw [FindsNoMore, countIn_standard hrule, countIn_standard hrule]

/-- The score follows from what the rules find. -/
theorem improves_iff : (standard scorer).Improves html
    ↔ ∀ rule ∈ Catalog.standard.rules, (standard scorer).FindsNoMore rule.id html := by
  refine ⟨Improves.counts, fun h => ⟨h, ?_⟩⟩
  exact score_validate_le (describes_standard scorer) fun rule hrule =>
    (findsNoMore_standard hrule).1 (h rule hrule)

/-- In a text that is read as it is written no rule but the search for secrets finds more after
automatic repair, and nothing gets worse exactly if the search for secrets finds no more either. -/
theorem improves_iff_of_keepsReading (hreads : (Document.parse html).KeepsReading)
    (scorer : Scorer) :
    (∀ rule ∈ Catalog.standard.rules, rule.info ≠ .hardcodedSecret →
        (standard scorer).FindsNoMore rule.id html)
      ∧ ((standard scorer).Improves html
        ↔ (standard scorer).FindsNoMore RuleInfo.hardcodedSecret.id html) := by
  have hothers : ∀ rule ∈ Catalog.standard.rules, rule.info ≠ .hardcodedSecret →
      (standard scorer).FindsNoMore rule.id html := fun rule hrule hsecret =>
    (findsNoMore_standard hrule).2 ((repairing_repaired hreads scorer).counts rule hrule hsecret)
  refine ⟨hothers, fun himproves => ?_, fun hsecrets => improves_iff.2 fun rule hrule => ?_⟩
  · exact himproves.counts (.hardcodedSecret SecretShape.builtin) hardcodedSecret_mem_standard
  · -- The search for secrets is known by its description, whatever shapes it looks for.
    by_cases hsecret : rule.info = .hardcodedSecret
    · rwa [show rule.id = RuleInfo.hardcodedSecret.id from congrArg RuleInfo.id hsecret]
    · exact hothers rule hrule hsecret

/-- A page whose one flaw that can be repaired is a link with a bare `rel` value. -/
def bareRelPage : List Char := ("<!DOCTYPE html><html lang=en><head><meta charset=utf-8>"
  ++ "<meta name=viewport content=w></head><a href=//x.io target=_blank rel=a>x</a>").toList

theorem keepsReading_bareRelPage : (Document.parse bareRelPage).KeepsReading := by
  intro kind
  cases kind with
  | insertCharset =>
    have hutf8 : (Document.parse bareRelPage).declaresUtf8 = true := by decide +kernel
    intro hmissing
    rw [hutf8] at hmissing
    cases hmissing
  | secureTargetBlank =>
    rw [FixKind.ReadsOn]
    decide +kernel
  | _ => trivial

/-- Its value is put in quotes with the missing words, and no rule but that of links is concerned. -/
theorem improves_iff_bareRelPage :
    ((standard (.ofConfig {})).repaired bareRelPage).resolvedRules = ["security/target-blank"]
      ∧ (∀ rule ∈ Catalog.standard.rules, rule.info ≠ .hardcodedSecret →
        (standard (.ofConfig {})).FindsNoMore rule.id bareRelPage)
      ∧ ((standard (.ofConfig {})).Improves bareRelPage
        ↔ (standard (.ofConfig {})).FindsNoMore RuleInfo.hardcodedSecret.id bareRelPage) := by
  refine ⟨?_, improves_iff_of_keepsReading keepsReading_bareRelPage _⟩
  rw [repaired, autoFix_standard]
  decide +kernel

/-- The page with a stray quote and a brace in the `rel` value, in front of a heading and a title. -/
def mangledRelPage : List Char := ("<!DOCTYPE html><html lang=en><head><meta charset=utf-8>"
  ++ "<meta name=viewport content=w></head><a href=//x.io target=_blank rel=a\"=\x7b>x</a>"
  ++ "<h1>x</h1><title>t</title>").toList

/-- The title is lost: putting the `rel` value in quotes turns what follows its stray quote into a
braced expression that never ends, and the rest of the page lies in it. -/
theorem exists_worsened : ¬(standard (.ofConfig {})).Improves mangledRelPage := by
  intro himproves
  have hmem : Rule.pageTitle ∈ Catalog.standard.rules := by simp [Catalog.standard, builtinRules]
  have htitle := (findsNoMore_standard hmem).1 (himproves.counts .pageTitle hmem)
  rw [repaired, autoFix_standard] at htitle
  revert htitle
  decide +kernel

end Validator

end MarkupGate
