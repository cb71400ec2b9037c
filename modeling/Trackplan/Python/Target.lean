import Trackplan.Python.Chapter

/-! What can be assigned to or deleted, and type comments. -/
namespace Trackplan.Python

def targets : Chapter := ⟨"targets", "Assignment Targets", [
  ⟨"star_targets",
    alt [ref "star_target", seq [sepBy (sym ",") (ref "star_target"), opt (sym ",")]]⟩,
  ⟨"star_targets_list_seq", seq [sepBy (sym ",") (ref "star_target"), opt (sym ",")]⟩,
  ⟨"star_targets_tuple_seq",
    alt [
      seq [ref "star_target", plus (seq [sym ",", ref "star_target"]), opt (sym ",")],
      seq [ref "star_target", sym ","]]⟩,
  ⟨"star_target", alt [seq [sym "*", ref "star_target"], ref "target_with_star_atom"]⟩,
  ⟨"target_with_star_atom",
    alt [
      seq [ref "t_primary", sym ".", sym "NAME"],
      seq [ref "t_primary", sym "[", ref "slices", sym "]"], ref "star_atom"]⟩,
  ⟨"star_atom",
    alt [
      sym "NAME", seq [sym "(", ref "target_with_star_atom", sym ")"],
      seq [sym "(", opt (ref "star_targets_tuple_seq"), sym ")"],
      seq [sym "[", opt (ref "star_targets_list_seq"), sym "]"]]⟩,
  ⟨"single_target",
    alt [
      ref "single_subscript_attribute_target", sym "NAME",
      seq [sym "(", ref "single_target", sym ")"]]⟩,
  ⟨"single_subscript_attribute_target",
    alt [
      seq [ref "t_primary", sym ".", sym "NAME"],
      seq [ref "t_primary", sym "[", ref "slices", sym "]"]]⟩,
  ⟨"t_primary",
    seq [
      ref "atom",
      star (alt [
        seq [sym ".", sym "NAME"], seq [sym "[", ref "slices", sym "]"], ref "genexp",
        seq [sym "(", opt (ref "arguments"), sym ")"]]),
      remark "&t_lookahead"]⟩,
  ⟨"t_lookahead", alt [sym "(", sym "[", sym "."]⟩,
  ⟨"del_targets", seq [sepBy (sym ",") (ref "del_target"), opt (sym ",")]⟩,
  ⟨"del_target",
    alt [
      seq [ref "t_primary", sym ".", sym "NAME"],
      seq [ref "t_primary", sym "[", ref "slices", sym "]"], ref "del_t_atom"]⟩,
  ⟨"del_t_atom",
    alt [
      sym "NAME", seq [sym "(", ref "del_target", sym ")"],
      seq [sym "(", opt (ref "del_targets"), sym ")"],
      seq [sym "[", opt (ref "del_targets"), sym "]"]]⟩]⟩

def typing : Chapter := ⟨"typing", "Typing Elements", [
  ⟨"type_expressions",
    alt [
      seq [
        sepBy (sym ",") (ref "expression"), sym ",", sym "*", ref "expression", sym ",", sym "**",
        ref "expression"],
      seq [sepBy (sym ",") (ref "expression"), sym ",", sym "*", ref "expression"],
      seq [sepBy (sym ",") (ref "expression"), sym ",", sym "**", ref "expression"],
      seq [sym "*", ref "expression", sym ",", sym "**", ref "expression"],
      seq [sym "*", ref "expression"], seq [sym "**", ref "expression"],
      sepBy (sym ",") (ref "expression")]⟩,
  ⟨"func_type_comment", alt [seq [sym "NEWLINE", sym "TYPE_COMMENT"], sym "TYPE_COMMENT"]⟩]⟩

end Trackplan.Python
