import Trackplan.Python.Chapter

/-! Blocks, classes, functions and their parameters. -/
namespace Trackplan.Python

def compound : Chapter := ⟨"compound", "Compound Statements", [
  ⟨"block",
    alt [seq [sym "NEWLINE", sym "INDENT", ref "statements", sym "DEDENT"], ref "simple_stmts"]⟩,
  ⟨"decorators", plus (seq [sym "@", ref "named_expression", sym "NEWLINE"])⟩,
  ⟨"class_def", alt [seq [ref "decorators", ref "class_def_raw"], ref "class_def_raw"]⟩,
  ⟨"class_def_raw",
    seq [
      word "class", sym "NAME", opt (ref "type_params"),
      opt (seq [sym "(", opt (ref "arguments"), sym ")"]), sym ":", ref "block"]⟩,
  ⟨"function_def", alt [seq [ref "decorators", ref "function_def_raw"], ref "function_def_raw"]⟩,
  ⟨"function_def_raw",
    alt [
      seq [
        word "def", sym "NAME", opt (ref "type_params"), sym "(", opt (ref "params"), sym ")",
        opt (seq [sym "->", ref "expression"]), sym ":", opt (ref "func_type_comment"),
        ref "block"],
      seq [
        word "async", word "def", sym "NAME", opt (ref "type_params"), sym "(",
        opt (ref "params"), sym ")", opt (seq [sym "->", ref "expression"]), sym ":",
        opt (ref "func_type_comment"), ref "block"]]⟩]⟩

def parameters : Chapter := ⟨"params", "Function Parameters", [
  ⟨"params", ref "parameters"⟩,
  ⟨"parameters",
    alt [
      seq [
        ref "slash_no_default", star (ref "param_no_default"), star (ref "param_with_default"),
        opt (ref "star_etc")],
      seq [ref "slash_with_default", star (ref "param_with_default"), opt (ref "star_etc")],
      seq [plus (ref "param_no_default"), star (ref "param_with_default"), opt (ref "star_etc")],
      seq [plus (ref "param_with_default"), opt (ref "star_etc")], ref "star_etc"]⟩,
  ⟨"slash_no_default",
    seq [plus (ref "param_no_default"), sym "/", alt [sym ",", remark "&')'"]]⟩,
  ⟨"slash_with_default",
    seq [
      star (ref "param_no_default"), plus (ref "param_with_default"), sym "/",
      alt [sym ",", remark "&')'"]]⟩,
  ⟨"star_etc",
    alt [
      seq [sym "*", ref "param_no_default", star (ref "param_maybe_default"), opt (ref "kwds")],
      seq [
        sym "*", ref "param_no_default_star_annotation", star (ref "param_maybe_default"),
        opt (ref "kwds")],
      seq [sym "*", sym ",", plus (ref "param_maybe_default"), opt (ref "kwds")], ref "kwds"]⟩,
  ⟨"kwds", seq [sym "**", ref "param_no_default"]⟩,
  ⟨"param_no_default",
    seq [
      ref "param",
      alt [
        seq [sym ",", opt (sym "TYPE_COMMENT")], seq [opt (sym "TYPE_COMMENT"), remark "&')'"]]]⟩,
  ⟨"param_no_default_star_annotation",
    seq [
      ref "param_star_annotation",
      alt [
        seq [sym ",", opt (sym "TYPE_COMMENT")], seq [opt (sym "TYPE_COMMENT"), remark "&')'"]]]⟩,
  ⟨"param_with_default",
    seq [
      ref "param", ref "default",
      alt [
        seq [sym ",", opt (sym "TYPE_COMMENT")], seq [opt (sym "TYPE_COMMENT"), remark "&')'"]]]⟩,
  ⟨"param_maybe_default",
    seq [
      ref "param", opt (ref "default"),
      alt [
        seq [sym ",", opt (sym "TYPE_COMMENT")], seq [opt (sym "TYPE_COMMENT"), remark "&')'"]]]⟩,
  ⟨"param", seq [sym "NAME", opt (ref "annotation")]⟩,
  ⟨"param_star_annotation", seq [sym "NAME", ref "star_annotation"]⟩,
  ⟨"annotation", seq [sym ":", ref "expression"]⟩,
  ⟨"star_annotation", seq [sym ":", ref "star_expression"]⟩,
  ⟨"default", seq [sym "=", ref "expression"]⟩]⟩

end Trackplan.Python
