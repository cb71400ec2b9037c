import Trackplan.Python.Chapter

/-! Statements on one line, and imports. -/
namespace Trackplan.Python

def simpleStatements : Chapter := ⟨"simple_stmts", "Simple Statements", [
  ⟨"assignment",
    alt [
      seq [sym "NAME", sym ":", ref "expression", opt (seq [sym "=", ref "annotated_rhs"])],
      seq [
        alt [
          seq [sym "(", ref "single_target", sym ")"], ref "single_subscript_attribute_target"],
        sym ":", ref "expression", opt (seq [sym "=", ref "annotated_rhs"])],
      seq [
        plus (seq [ref "star_targets", sym "="]), ref "annotated_rhs", opt (sym "TYPE_COMMENT")],
      seq [ref "single_target", ref "augassign", ref "annotated_rhs"]]⟩,
  ⟨"annotated_rhs", alt [ref "yield_expr", ref "star_expressions"]⟩,
  ⟨"augassign",
    alt [
      sym "+=", sym "-=", sym "*=", sym "@=", sym "/=", sym "%=", sym "&=", sym "|=", sym "^=",
      sym "<<=", sym ">>=", sym "**=", sym "//="]⟩,
  ⟨"return_stmt", seq [word "return", opt (ref "star_expressions")]⟩,
  ⟨"raise_stmt",
    alt [
      seq [word "raise", ref "expression", opt (seq [word "from", ref "expression"])],
      word "raise"]⟩,
  ⟨"pass_stmt", word "pass"⟩,
  ⟨"break_stmt", word "break"⟩,
  ⟨"continue_stmt", word "continue"⟩,
  ⟨"global_stmt", seq [word "global", sym "NAME", star (seq [sym ",", sym "NAME"])]⟩,
  ⟨"nonlocal_stmt", seq [word "nonlocal", sym "NAME", star (seq [sym ",", sym "NAME"])]⟩,
  ⟨"del_stmt", seq [word "del", ref "del_targets"]⟩,
  ⟨"yield_stmt", ref "yield_expr"⟩,
  ⟨"assert_stmt", seq [word "assert", ref "expression", opt (seq [sym ",", ref "expression"])]⟩]⟩

def imports : Chapter := ⟨"imports", "Import Statements", [
  ⟨"import_stmt", alt [ref "import_name", ref "import_from"]⟩,
  ⟨"import_name", seq [word "import", ref "dotted_as_names"]⟩,
  ⟨"import_from",
    alt [
      seq [
        word "from", star (alt [sym ".", sym "..."]), ref "dotted_name", word "import",
        ref "import_from_targets"],
      seq [
        word "from", plus (alt [sym ".", sym "..."]), word "import", ref "import_from_targets"]]⟩,
  ⟨"import_from_targets",
    alt [
      seq [sym "(", ref "import_from_as_names", opt (sym ","), sym ")"],
      ref "import_from_as_names", sym "*"]⟩,
  ⟨"import_from_as_names", seq [sepBy (sym ",") (ref "import_from_as_name")]⟩,
  ⟨"import_from_as_name", seq [sym "NAME", opt (seq [word "as", sym "NAME"])]⟩,
  ⟨"dotted_as_names", seq [sepBy (sym ",") (ref "dotted_as_name")]⟩,
  ⟨"dotted_as_name", seq [ref "dotted_name", opt (seq [word "as", sym "NAME"])]⟩,
  ⟨"dotted_name", seq [sym "NAME", star (seq [sym ".", sym "NAME"])]⟩]⟩

end Trackplan.Python
