import Trackplan.Python.Chapter

/-! Whole programs and the statements they consist of. -/
namespace Trackplan.Python

def starting : Chapter := ⟨"starting", "Starting Rules", [
  ⟨"file", seq [opt (ref "statements"), sym "ENDMARKER"]⟩,
  ⟨"interactive", ref "statement_newline"⟩,
  ⟨"eval", seq [ref "expressions", star (sym "NEWLINE"), sym "ENDMARKER"]⟩,
  ⟨"func_type",
    seq [
      sym "(", opt (ref "type_expressions"), sym ")", sym "->", ref "expression",
      star (sym "NEWLINE"), sym "ENDMARKER"]⟩]⟩

def statements : Chapter := ⟨"statements", "General Statements", [
  ⟨"statements", plus (ref "statement")⟩,
  ⟨"statement", alt [ref "compound_stmt", ref "simple_stmts"]⟩,
  ⟨"statement_newline",
    alt [
      seq [ref "compound_stmt", sym "NEWLINE"], ref "simple_stmts", sym "NEWLINE", sym "ENDMARKER"]⟩,
  ⟨"simple_stmts",
    alt [
      seq [ref "simple_stmt", sym "NEWLINE"],
      seq [sepBy (sym ";") (ref "simple_stmt"), opt (sym ";"), sym "NEWLINE"]]⟩,
  ⟨"simple_stmt",
    alt [
      ref "assignment", ref "type_alias", ref "star_expressions", ref "return_stmt",
      ref "import_stmt", ref "raise_stmt", ref "pass_stmt", ref "del_stmt", ref "yield_stmt",
      ref "assert_stmt", ref "break_stmt", ref "continue_stmt", ref "global_stmt",
      ref "nonlocal_stmt"]⟩,
  ⟨"compound_stmt",
    alt [
      ref "function_def", ref "if_stmt", ref "class_def", ref "with_stmt", ref "for_stmt",
      ref "try_stmt", ref "while_stmt", ref "match_stmt"]⟩]⟩

end Trackplan.Python
