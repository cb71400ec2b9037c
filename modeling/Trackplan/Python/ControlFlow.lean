import Trackplan.Python.Chapter

/-! Conditions, loops, contexts and exceptions. -/
namespace Trackplan.Python

def controlFlow : Chapter := ⟨"control", "Control Flow (if/while/for/with/try)", [
  ⟨"if_stmt",
    alt [
      seq [word "if", ref "named_expression", sym ":", ref "block", ref "elif_stmt"],
      seq [word "if", ref "named_expression", sym ":", ref "block", opt (ref "else_block")]]⟩,
  ⟨"elif_stmt",
    alt [
      seq [word "elif", ref "named_expression", sym ":", ref "block", ref "elif_stmt"],
      seq [word "elif", ref "named_expression", sym ":", ref "block", opt (ref "else_block")]]⟩,
  ⟨"else_block", seq [word "else", sym ":", ref "block"]⟩,
  ⟨"while_stmt",
    seq [word "while", ref "named_expression", sym ":", ref "block", opt (ref "else_block")]⟩,
  ⟨"for_stmt",
    alt [
      seq [
        word "for", ref "star_targets", word "in", ref "star_expressions", sym ":",
        opt (sym "TYPE_COMMENT"), ref "block", opt (ref "else_block")],
      seq [
        word "async", word "for", ref "star_targets", word "in", ref "star_expressions", sym ":",
        opt (sym "TYPE_COMMENT"), ref "block", opt (ref "else_block")]]⟩,
  ⟨"with_stmt",
    alt [
      seq [
        word "with", sym "(", sepBy (sym ",") (ref "with_item"), opt (sym ","), sym ")", sym ":",
        opt (sym "TYPE_COMMENT"), ref "block"],
      seq [
        word "with", sepBy (sym ",") (ref "with_item"), sym ":", opt (sym "TYPE_COMMENT"),
        ref "block"],
      seq [
        word "async", word "with", sym "(", sepBy (sym ",") (ref "with_item"), opt (sym ","),
        sym ")", sym ":", ref "block"],
      seq [
        word "async", word "with", sepBy (sym ",") (ref "with_item"), sym ":",
        opt (sym "TYPE_COMMENT"), ref "block"]]⟩,
  ⟨"with_item", alt [seq [ref "expression", word "as", ref "star_target"], ref "expression"]⟩,
  ⟨"try_stmt",
    alt [
      seq [word "try", sym ":", ref "block", ref "finally_block"],
      seq [
        word "try", sym ":", ref "block", plus (ref "except_block"), opt (ref "else_block"),
        opt (ref "finally_block")],
      seq [
        word "try", sym ":", ref "block", plus (ref "except_star_block"), opt (ref "else_block"),
        opt (ref "finally_block")]]⟩,
  ⟨"except_block",
    alt [
      seq [word "except", ref "expression", sym ":", ref "block"],
      seq [word "except", ref "expression", word "as", sym "NAME", sym ":", ref "block"],
      seq [word "except", ref "expressions", sym ":", ref "block"],
      seq [word "except", sym ":", ref "block"]]⟩,
  ⟨"except_star_block",
    alt [
      seq [word "except", sym "*", ref "expression", sym ":", ref "block"],
      seq [word "except", sym "*", ref "expression", word "as", sym "NAME", sym ":", ref "block"],
      seq [word "except", sym "*", ref "expressions", sym ":", ref "block"]]⟩,
  ⟨"finally_block", seq [word "finally", sym ":", ref "block"]⟩]⟩

end Trackplan.Python
