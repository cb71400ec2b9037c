import Trackplan.Python.Chapter

/-! Atoms and what follows them, and lambda functions. -/
namespace Trackplan.Python

def primaries : Chapter := ⟨"primary", "Primary Elements", [
  ⟨"await_primary", alt [seq [word "await", ref "primary"], ref "primary"]⟩,
  ⟨"primary",
    seq [
      ref "atom",
      star (alt [
        seq [sym ".", sym "NAME"], ref "genexp", seq [sym "(", opt (ref "arguments"), sym ")"],
        seq [sym "[", ref "slices", sym "]"]])]⟩,
  ⟨"slices",
    alt [
      ref "slice",
      seq [
        alt [ref "slice", ref "starred_expression"],
        star (seq [sym ",", alt [ref "slice", ref "starred_expression"]]), opt (sym ",")]]⟩,
  ⟨"slice",
    alt [
      seq [
        opt (ref "expression"), sym ":", opt (ref "expression"),
        opt (seq [sym ":", opt (ref "expression")])],
      ref "named_expression"]⟩,
  ⟨"atom",
    alt [
      sym "NAME", word "True", word "False", word "None", ref "strings", sym "NUMBER",
      alt [ref "tuple", ref "group", ref "genexp"], alt [ref "list", ref "listcomp"],
      alt [ref "dict", ref "set", ref "dictcomp", ref "setcomp"], sym "..."]⟩,
  ⟨"group", seq [sym "(", alt [ref "yield_expr", ref "named_expression"], sym ")"]⟩]⟩

def lambdas : Chapter := ⟨"lambda", "Lambda Functions", [
  ⟨"lambdef", seq [word "lambda", opt (ref "lambda_params"), sym ":", ref "expression"]⟩,
  ⟨"lambda_params", ref "lambda_parameters"⟩,
  ⟨"lambda_parameters",
    alt [
      seq [
        ref "lambda_slash_no_default", star (ref "lambda_param_no_default"),
        star (ref "lambda_param_with_default"), opt (ref "lambda_star_etc")],
      seq [
        ref "lambda_slash_with_default", star (ref "lambda_param_with_default"),
        opt (ref "lambda_star_etc")],
      seq [
        plus (ref "lambda_param_no_default"), star (ref "lambda_param_with_default"),
        opt (ref "lambda_star_etc")],
      seq [plus (ref "lambda_param_with_default"), opt (ref "lambda_star_etc")],
      ref "lambda_star_etc"]⟩,
  ⟨"lambda_slash_no_default",
    seq [plus (ref "lambda_param_no_default"), sym "/", alt [sym ",", remark "&':'"]]⟩,
  ⟨"lambda_slash_with_default",
    seq [
      star (ref "lambda_param_no_default"), plus (ref "lambda_param_with_default"), sym "/",
      alt [sym ",", remark "&':'"]]⟩,
  ⟨"lambda_star_etc",
    alt [
      seq [
        sym "*", ref "lambda_param_no_default", star (ref "lambda_param_maybe_default"),
        opt (ref "lambda_kwds")],
      seq [sym "*", sym ",", plus (ref "lambda_param_maybe_default"), opt (ref "lambda_kwds")],
      ref "lambda_kwds"]⟩,
  ⟨"lambda_kwds", seq [sym "**", ref "lambda_param_no_default"]⟩,
  ⟨"lambda_param_no_default", seq [ref "lambda_param", alt [sym ",", remark "&':'"]]⟩,
  ⟨"lambda_param_with_default",
    seq [ref "lambda_param", ref "default", alt [sym ",", remark "&':'"]]⟩,
  ⟨"lambda_param_maybe_default",
    seq [ref "lambda_param", opt (ref "default"), alt [sym ",", remark "&':'"]]⟩,
  ⟨"lambda_param", sym "NAME"⟩]⟩

end Trackplan.Python
