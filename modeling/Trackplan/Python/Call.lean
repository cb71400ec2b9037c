import Trackplan.Python.Chapter

/-! Arguments of a call. -/
namespace Trackplan.Python

def arguments : Chapter := ⟨"arguments", "Function Call Arguments", [
  ⟨"arguments", seq [ref "args", opt (sym ",")]⟩,
  ⟨"args",
    alt [
      seq [
        alt [ref "starred_expression", ref "assignment_expression", ref "expression"],
        star (seq [
          sym ",", alt [ref "starred_expression", ref "assignment_expression", ref "expression"]]),
        opt (seq [sym ",", ref "kwargs"])],
      ref "kwargs"]⟩,
  ⟨"kwargs",
    alt [
      seq [
        sepBy (sym ",") (ref "kwarg_or_starred"), sym ",",
        sepBy (sym ",") (ref "kwarg_or_double_starred")],
      sepBy (sym ",") (ref "kwarg_or_starred"), sepBy (sym ",") (ref "kwarg_or_double_starred")]⟩,
  ⟨"starred_expression", seq [sym "*", ref "expression"]⟩,
  ⟨"kwarg_or_starred",
    alt [seq [sym "NAME", sym "=", ref "expression"], ref "starred_expression"]⟩,
  ⟨"kwarg_or_double_starred",
    alt [seq [sym "NAME", sym "=", ref "expression"], seq [sym "**", ref "expression"]]⟩]⟩

end Trackplan.Python
