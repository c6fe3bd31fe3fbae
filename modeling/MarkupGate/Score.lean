import MarkupGate.Config.Basic
import MarkupGate.Finding.Basic

/-!
# Scores

A page starts with a hundred points and loses the weight of every finding; the score decides its
grade and, unless there is a critical error, whether it passes. Grade and verdict are independent:
a page with a good grade fails over one critical error.
-/

namespace MarkupGate

/-- The grades, the best first. -/
inductive Grade where
  | a
  | b
  | c
  | d
  | f
  deriving DecidableEq, Repr

namespace Grade

/-- All grades, the best first. -/
def all : List Grade := [.a, .b, .c, .d, .f]

/-- The letter of a grade. -/
def name : Grade → String
  | .a => "A"
  | .b => "B"
  | .c => "C"
  | .d => "D"
  | .f => "F"

/-- The grade of a letter. -/
def ofName? (s : String) : Option Grade := all.find? fun g => g.name = s

theorem ofName?_name (g : Grade) : ofName? g.name = some g := by cases g <;> decide

/-- How far a grade is from the best. -/
def rank : Grade → Nat
  | .a => 0
  | .b => 1
  | .c => 2
  | .d => 3
  | .f => 4

end Grade

/-- What a page scores. -/
structure Score where
  points : Nat
  grade : Grade
  passed : Bool
  deriving DecidableEq, Repr

/-- How pages are scored. -/
structure Scorer where
  /-- the lowest score that passes -/
  passThreshold : Nat
  /-- the lowest score of an A -/
  cutoffA : Nat
  /-- the lowest score of a B -/
  cutoffB : Nat
  /-- the lowest score of a C -/
  cutoffC : Nat
  /-- the lowest score of a D -/
  cutoffD : Nat
  deriving DecidableEq, Repr

/-- The largest sum of weights that is counted. -/
def maxDeduction : Nat := 4294967295

namespace Scorer

/-- The scorer of a configuration. -/
def ofConfig (c : ScoringConfig) : Scorer where
  passThreshold := c.passThresholdOrDefault
  cutoffA := c.gradeAOrDefault
  cutoffB := c.gradeBOrDefault
  cutoffC := c.gradeCOrDefault
  cutoffD := c.gradeDOrDefault

/-- The points that findings cost together; the sum stops at the largest that is counted. -/
def deduction (findings : List Finding) : Nat :=
  findings.foldl (fun sum f => min (sum + f.severity.weight) maxDeduction) 0

/-- The score of findings: a hundred less what they cost, and never below zero. -/
def points (findings : List Finding) : Nat := 100 - deduction findings

/-- The grade of a score: the first whose cut-off it reaches. -/
def grade (s : Scorer) (points : Nat) : Grade :=
  if s.cutoffA ≤ points then .a
  else if s.cutoffB ≤ points then .b
  else if s.cutoffC ≤ points then .c
  else if s.cutoffD ≤ points then .d
  else .f

/-- What a page with these findings scores. -/
def score (s : Scorer) (findings : List Finding) : Score :=
  let points := points findings
  { points := points
    grade := s.grade points
    passed := s.passThreshold ≤ points && !findings.any fun f => f.severity.isAutoFail }

end Scorer

end MarkupGate
