import CellPreview.Formula.Comparison
import CellPreview.Formula.Parser
import CellPreview.Text.Substitution

/-!
# Evaluation

Every formula has a value in every context. The anomalies met on the way are
collected in the order in which they are met, and a branch that is not taken
contributes none. A text without a leading equals sign is a template, in which
only the field reference is replaced.
-/

namespace CellPreview
namespace Formula

/-- What a formula may refer to: the value of the field and the instant of the
evaluation, in milliseconds from the first instant of 1970. -/
structure Context where
  field : Text
  now : Int
  deriving DecidableEq

/-- A value and the anomalies met while computing it. -/
structure Evaluation where
  value : Text
  anomalies : List Anomaly
  deriving DecidableEq

/-- A truth value and the anomalies met while deciding it. -/
structure Verdict where
  holds : Bool
  anomalies : List Anomaly
  deriving DecidableEq

/-- The field reference as it is written. -/
def fieldToken : Text := '@' :: fieldName

/-- The reference to the instant as it is written. -/
def nowToken : Text := '@' :: nowName

/-- Replace every field reference in a text by the field value. -/
def substituteField (field text : Text) : Text :=
  Text.replaceAll fieldToken field text

/-- Replace the references in the source of a malformed piece. The instant goes
first, so a field value that holds its name is left as it is. -/
def substituteTokens (context : Context) (text : Text) : Text :=
  substituteField context.field
    (Text.replaceAll nowToken (Text.ofInt context.now) text)

namespace Evaluation

/-- A value met without anomalies. -/
def pure (value : Text) : Evaluation :=
  ⟨value, []⟩

/-- The first value followed by the second. -/
def append (first second : Evaluation) : Evaluation :=
  ⟨first.value ++ second.value, first.anomalies ++ second.anomalies⟩

/-- Sum of two integers; their concatenation when it cannot be computed. -/
def add (first second : Evaluation) : Evaluation :=
  match addIntegers first.value second.value with
  | .ok total => ⟨total, first.anomalies ++ second.anomalies⟩
  | .error anomaly =>
      ⟨first.value ++ second.value,
        first.anomalies ++ second.anomalies ++ [anomaly]⟩

/-- Comparison of two values. -/
def compare (operator : Comparison) (first second : Evaluation) : Verdict :=
  let (holds, anomaly) := operator.decide first.value second.value
  ⟨holds, first.anomalies ++ second.anomalies ++ anomaly.toList⟩

/-- A value met after some other anomalies. -/
def after (anomalies : List Anomaly) (evaluation : Evaluation) : Evaluation :=
  ⟨evaluation.value, anomalies ++ evaluation.anomalies⟩

/-- The source text that stands for a malformed piece. -/
def malformed (context : Context) (source : Text) (cause : Error) :
    Evaluation :=
  ⟨substituteTokens context source, [.malformed source cause]⟩

end Evaluation

/-- The truth value of a comparison that stands where a text is wanted. -/
def Verdict.asText (verdict : Verdict) : Evaluation :=
  ⟨if verdict.holds then "true" else "false", verdict.anomalies⟩

namespace Expr

mutual

/-- Value of an expression. -/
def eval (context : Context) : Expr -> Evaluation
  | .text content => .pure content
  | .number numeral => .pure numeral
  | .field => .pure context.field
  | .now => .pure (Text.ofInt context.now)
  | .concat parts => evalAll context parts
  | .add left right => (left.eval context).add (right.eval context)
  | .compare operator left right =>
      ((left.eval context).compare operator (right.eval context)).asText
  | .choose condition whenTrue otherwise =>
      let verdict := condition.test context
      if verdict.holds then (whenTrue.eval context).after verdict.anomalies
      else (otherwise.eval context).after verdict.anomalies
  | .invalid source cause => .malformed context source cause

/-- Truth of an expression as a condition. Only comparisons can hold. -/
def test (context : Context) : Expr -> Verdict
  | .compare operator left right =>
      (left.eval context).compare operator (right.eval context)
  | .invalid source cause => ⟨false, [.malformed source cause]⟩
  | _ => ⟨false, [.notComparison]⟩

/-- Values of expressions, one after the other. -/
def evalAll (context : Context) : List Expr -> Evaluation
  | [] => .pure []
  | part :: others => (part.eval context).append (evalAll context others)

end

end Expr

/-- Value of a text in a document: a formula after an equals sign, a template
otherwise. -/
def evaluate (context : Context) : Text -> Evaluation
  | '=' :: body => (parse body).eval context
  | template => .pure (substituteField context.field template)

end Formula
end CellPreview
