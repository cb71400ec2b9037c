import Trackplan.Python.Chapter

/-! Strings, displays of collections, and comprehensions. -/
namespace Trackplan.Python

def literals : Chapter := ⟨"literals", "Literals", [
  ⟨"fstring_middle", alt [ref "fstring_replacement_field", sym "FSTRING_MIDDLE"]⟩,
  ⟨"fstring_replacement_field",
    seq [
      sym "\x7b", ref "annotated_rhs", opt (sym "="), opt (ref "fstring_conversion"),
      opt (ref "fstring_full_format_spec"), sym "\x7d"]⟩,
  ⟨"fstring_conversion", seq [sym "!", sym "NAME"]⟩,
  ⟨"fstring_full_format_spec", seq [sym ":", star (ref "fstring_format_spec")]⟩,
  ⟨"fstring_format_spec", alt [sym "FSTRING_MIDDLE", ref "fstring_replacement_field"]⟩,
  ⟨"fstring", seq [sym "FSTRING_START", star (ref "fstring_middle"), sym "FSTRING_END"]⟩,
  ⟨"tstring_format_spec_replacement_field",
    seq [
      sym "\x7b", ref "annotated_rhs", opt (sym "="), opt (ref "fstring_conversion"),
      opt (ref "tstring_full_format_spec"), sym "\x7d"]⟩,
  ⟨"tstring_format_spec",
    alt [sym "TSTRING_MIDDLE", ref "tstring_format_spec_replacement_field"]⟩,
  ⟨"tstring_full_format_spec", seq [sym ":", star (ref "tstring_format_spec")]⟩,
  ⟨"tstring_replacement_field",
    seq [
      sym "\x7b", ref "annotated_rhs", opt (sym "="), opt (ref "fstring_conversion"),
      opt (ref "tstring_full_format_spec"), sym "\x7d"]⟩,
  ⟨"tstring_middle", alt [ref "tstring_replacement_field", sym "TSTRING_MIDDLE"]⟩,
  ⟨"tstring", seq [sym "TSTRING_START", star (ref "tstring_middle"), sym "TSTRING_END"]⟩,
  ⟨"string", sym "STRING"⟩,
  ⟨"strings", alt [plus (alt [ref "fstring", ref "string"]), plus (ref "tstring")]⟩]⟩

def collections : Chapter := ⟨"collections", "Collections", [
  ⟨"list", seq [sym "[", opt (ref "star_named_expressions"), sym "]"]⟩,
  ⟨"tuple",
    seq [
      sym "(",
      opt (seq [ref "star_named_expression", sym ",", opt (ref "star_named_expressions")]),
      sym ")"]⟩,
  ⟨"set", seq [sym "\x7b", ref "star_named_expressions", sym "\x7d"]⟩,
  ⟨"dict", seq [sym "\x7b", opt (ref "double_starred_kvpairs"), sym "\x7d"]⟩,
  ⟨"double_starred_kvpairs", seq [sepBy (sym ",") (ref "double_starred_kvpair"), opt (sym ",")]⟩,
  ⟨"double_starred_kvpair", alt [seq [sym "**", ref "bitwise_or"], ref "kvpair"]⟩,
  ⟨"kvpair", seq [ref "expression", sym ":", ref "expression"]⟩]⟩

def comprehensions : Chapter := ⟨"comprehensions", "Comprehensions & Generators", [
  ⟨"for_if_clauses", plus (ref "for_if_clause")⟩,
  ⟨"for_if_clause",
    alt [
      seq [
        word "async", word "for", ref "star_targets", word "in", ref "disjunction",
        star (seq [word "if", ref "disjunction"])],
      seq [
        word "for", ref "star_targets", word "in", ref "disjunction",
        star (seq [word "if", ref "disjunction"])]]⟩,
  ⟨"listcomp", seq [sym "[", ref "named_expression", ref "for_if_clauses", sym "]"]⟩,
  ⟨"setcomp", seq [sym "\x7b", ref "named_expression", ref "for_if_clauses", sym "\x7d"]⟩,
  ⟨"genexp",
    seq [
      sym "(", alt [ref "assignment_expression", ref "expression"], ref "for_if_clauses", sym ")"]⟩,
  ⟨"dictcomp", seq [sym "\x7b", ref "kvpair", ref "for_if_clauses", sym "\x7d"]⟩]⟩

end Trackplan.Python
