import Trackplan.Python.Chapter

/-! Expressions and their operators, from the loosest to the tightest. -/
namespace Trackplan.Python

def expressions : Chapter := ⟨"expressions", "Expressions", [
  ⟨"expressions",
    alt [
      seq [ref "expression", plus (seq [sym ",", ref "expression"]), opt (sym ",")],
      seq [ref "expression", sym ","], ref "expression"]⟩,
  ⟨"expression",
    alt [
      seq [ref "disjunction", word "if", ref "disjunction", word "else", ref "expression"],
      ref "disjunction", ref "lambdef"]⟩,
  ⟨"yield_expr",
    alt [
      seq [word "yield", word "from", ref "expression"],
      seq [word "yield", opt (ref "star_expressions")]]⟩,
  ⟨"star_expressions",
    alt [
      seq [ref "star_expression", plus (seq [sym ",", ref "star_expression"]), opt (sym ",")],
      seq [ref "star_expression", sym ","], ref "star_expression"]⟩,
  ⟨"star_expression", alt [seq [sym "*", ref "bitwise_or"], ref "expression"]⟩,
  ⟨"star_named_expressions", seq [sepBy (sym ",") (ref "star_named_expression"), opt (sym ",")]⟩,
  ⟨"star_named_expression", alt [seq [sym "*", ref "bitwise_or"], ref "named_expression"]⟩,
  ⟨"assignment_expression", seq [sym "NAME", sym ":=", ref "expression"]⟩,
  ⟨"named_expression", alt [ref "assignment_expression", ref "expression"]⟩,
  ⟨"disjunction",
    alt [seq [ref "conjunction", plus (seq [word "or", ref "conjunction"])], ref "conjunction"]⟩,
  ⟨"conjunction",
    alt [seq [ref "inversion", plus (seq [word "and", ref "inversion"])], ref "inversion"]⟩,
  ⟨"inversion", alt [seq [word "not", ref "inversion"], ref "comparison"]⟩]⟩

def comparisons : Chapter := ⟨"comparison", "Comparison Operators", [
  ⟨"comparison",
    alt [seq [ref "bitwise_or", plus (ref "compare_op_bitwise_or_pair")], ref "bitwise_or"]⟩,
  ⟨"compare_op_bitwise_or_pair",
    alt [
      ref "eq_bitwise_or", ref "noteq_bitwise_or", ref "lte_bitwise_or", ref "lt_bitwise_or",
      ref "gte_bitwise_or", ref "gt_bitwise_or", ref "notin_bitwise_or", ref "in_bitwise_or",
      ref "isnot_bitwise_or", ref "is_bitwise_or"]⟩,
  ⟨"eq_bitwise_or", seq [sym "==", ref "bitwise_or"]⟩,
  ⟨"noteq_bitwise_or", seq [sym "!=", ref "bitwise_or"]⟩,
  ⟨"lte_bitwise_or", seq [sym "<=", ref "bitwise_or"]⟩,
  ⟨"lt_bitwise_or", seq [sym "<", ref "bitwise_or"]⟩,
  ⟨"gte_bitwise_or", seq [sym ">=", ref "bitwise_or"]⟩,
  ⟨"gt_bitwise_or", seq [sym ">", ref "bitwise_or"]⟩,
  ⟨"notin_bitwise_or", seq [word "not", word "in", ref "bitwise_or"]⟩,
  ⟨"in_bitwise_or", seq [word "in", ref "bitwise_or"]⟩,
  ⟨"isnot_bitwise_or", seq [word "is", word "not", ref "bitwise_or"]⟩,
  ⟨"is_bitwise_or", seq [word "is", ref "bitwise_or"]⟩]⟩

def bitwise : Chapter := ⟨"bitwise", "Bitwise Operators", [
  ⟨"bitwise_or", sepBy (sym "|") (ref "bitwise_xor")⟩,
  ⟨"bitwise_xor", sepBy (sym "^") (ref "bitwise_and")⟩,
  ⟨"bitwise_and", sepBy (sym "&") (ref "shift_expr")⟩,
  ⟨"shift_expr", seq [ref "sum", star (seq [alt [sym "<<", sym ">>"], ref "sum"])]⟩]⟩

def arithmetic : Chapter := ⟨"arithmetic", "Arithmetic Operators", [
  ⟨"sum", seq [ref "term", star (seq [alt [sym "+", sym "-"], ref "term"])]⟩,
  ⟨"term",
    seq [
      ref "factor", star (seq [alt [sym "*", sym "/", sym "//", sym "%", sym "@"], ref "factor"])]⟩,
  ⟨"factor",
    alt [
      seq [sym "+", ref "factor"], seq [sym "-", ref "factor"], seq [sym "~", ref "factor"],
      ref "power"]⟩,
  ⟨"power", alt [seq [ref "await_primary", sym "**", ref "factor"], ref "await_primary"]⟩]⟩

end Trackplan.Python
