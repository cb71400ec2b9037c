import Trackplan.Python.Chapter

/-! Match statements and the patterns in them. -/
namespace Trackplan.Python

def matching : Chapter := ⟨"match", "Pattern Matching", [
  ⟨"match_stmt",
    seq [
      soft "match", ref "subject_expr", sym ":", sym "NEWLINE", sym "INDENT",
      plus (ref "case_block"), sym "DEDENT"]⟩,
  ⟨"subject_expr",
    alt [
      seq [ref "star_named_expression", sym ",", opt (ref "star_named_expressions")],
      ref "named_expression"]⟩,
  ⟨"case_block", seq [soft "case", ref "patterns", opt (ref "guard"), sym ":", ref "block"]⟩,
  ⟨"guard", seq [word "if", ref "named_expression"]⟩,
  ⟨"patterns", alt [ref "open_sequence_pattern", ref "pattern"]⟩,
  ⟨"pattern", alt [ref "as_pattern", ref "or_pattern"]⟩,
  ⟨"as_pattern", seq [ref "or_pattern", word "as", ref "pattern_capture_target"]⟩,
  ⟨"or_pattern", seq [sepBy (sym "|") (ref "closed_pattern")]⟩,
  ⟨"closed_pattern",
    alt [
      ref "literal_pattern", ref "capture_pattern", ref "wildcard_pattern", ref "value_pattern",
      ref "group_pattern", ref "sequence_pattern", ref "mapping_pattern", ref "class_pattern"]⟩,
  ⟨"literal_pattern",
    alt [
      ref "signed_number", ref "complex_number", ref "strings", word "None", word "True",
      word "False"]⟩,
  ⟨"literal_expr",
    alt [
      ref "signed_number", ref "complex_number", ref "strings", word "None", word "True",
      word "False"]⟩,
  ⟨"complex_number",
    alt [
      seq [ref "signed_real_number", sym "+", ref "imaginary_number"],
      seq [ref "signed_real_number", sym "-", ref "imaginary_number"]]⟩,
  ⟨"signed_number", alt [sym "NUMBER", seq [sym "-", sym "NUMBER"]]⟩,
  ⟨"signed_real_number", alt [ref "real_number", seq [sym "-", ref "real_number"]]⟩,
  ⟨"real_number", sym "NUMBER"⟩,
  ⟨"imaginary_number", sym "NUMBER"⟩,
  ⟨"capture_pattern", ref "pattern_capture_target"⟩,
  ⟨"pattern_capture_target",
    seq [sym "NAME", remark "not '_', not followed by '.', '(', or '='"]⟩,
  ⟨"wildcard_pattern", sym "_"⟩,
  ⟨"value_pattern", ref "attr"⟩,
  ⟨"attr", seq [ref "name_or_attr", sym ".", sym "NAME"]⟩,
  ⟨"name_or_attr", alt [ref "attr", sym "NAME"]⟩,
  ⟨"group_pattern", seq [sym "(", ref "pattern", sym ")"]⟩,
  ⟨"sequence_pattern",
    alt [
      seq [sym "[", opt (ref "maybe_sequence_pattern"), sym "]"],
      seq [sym "(", opt (ref "open_sequence_pattern"), sym ")"]]⟩,
  ⟨"open_sequence_pattern",
    seq [ref "maybe_star_pattern", sym ",", opt (ref "maybe_sequence_pattern")]⟩,
  ⟨"maybe_sequence_pattern", seq [sepBy (sym ",") (ref "maybe_star_pattern"), opt (sym ",")]⟩,
  ⟨"maybe_star_pattern", alt [ref "star_pattern", ref "pattern"]⟩,
  ⟨"star_pattern",
    alt [seq [sym "*", ref "pattern_capture_target"], seq [sym "*", ref "wildcard_pattern"]]⟩,
  ⟨"mapping_pattern",
    alt [
      seq [sym "\x7b", sym "\x7d"],
      seq [sym "\x7b", ref "double_star_pattern", opt (sym ","), sym "\x7d"],
      seq [
        sym "\x7b", ref "items_pattern", sym ",", ref "double_star_pattern", opt (sym ","),
        sym "\x7d"],
      seq [sym "\x7b", ref "items_pattern", opt (sym ","), sym "\x7d"]]⟩,
  ⟨"items_pattern", seq [sepBy (sym ",") (ref "key_value_pattern")]⟩,
  ⟨"key_value_pattern", seq [alt [ref "literal_expr", ref "attr"], sym ":", ref "pattern"]⟩,
  ⟨"double_star_pattern", seq [sym "**", ref "pattern_capture_target"]⟩,
  ⟨"class_pattern",
    alt [
      seq [ref "name_or_attr", sym "(", sym ")"],
      seq [ref "name_or_attr", sym "(", ref "positional_patterns", opt (sym ","), sym ")"],
      seq [ref "name_or_attr", sym "(", ref "keyword_patterns", opt (sym ","), sym ")"],
      seq [
        ref "name_or_attr", sym "(", ref "positional_patterns", sym ",", ref "keyword_patterns",
        opt (sym ","), sym ")"]]⟩,
  ⟨"positional_patterns", sepBy (sym ",") (ref "pattern")⟩,
  ⟨"keyword_patterns", seq [sepBy (sym ",") (ref "keyword_pattern")]⟩,
  ⟨"keyword_pattern", seq [sym "NAME", sym "=", ref "pattern"]⟩]⟩

end Trackplan.Python
