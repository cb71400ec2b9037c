import Trackplan.Python.Chapter

/-! Type aliases and type parameters. -/
namespace Trackplan.Python

def typeParameters : Chapter := ⟨"types", "Type Statements", [
  ⟨"type_alias",
    seq [soft "type", sym "NAME", opt (ref "type_params"), sym "=", ref "expression"]⟩,
  ⟨"type_params", seq [sym "[", ref "type_param_seq", sym "]"]⟩,
  ⟨"type_param_seq", seq [sepBy (sym ",") (ref "type_param"), opt (sym ",")]⟩,
  ⟨"type_param",
    alt [
      seq [sym "NAME", opt (ref "type_param_bound"), opt (ref "type_param_default")],
      seq [sym "*", sym "NAME", opt (ref "type_param_starred_default")],
      seq [sym "**", sym "NAME", opt (ref "type_param_default")]]⟩,
  ⟨"type_param_bound", seq [sym ":", ref "expression"]⟩,
  ⟨"type_param_default", seq [sym "=", ref "expression"]⟩,
  ⟨"type_param_starred_default", seq [sym "=", ref "star_expression"]⟩]⟩

end Trackplan.Python
