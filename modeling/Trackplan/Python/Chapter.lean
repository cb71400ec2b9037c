import Trackplan.Expr.Basic

/-! Short builders for grammar data, and chapters: sections written out with the rules that they
list. -/
namespace Trackplan.Python

/-- A token class or punctuation, told apart by its spelling. -/
def sym (text : String) : Expr := .token text
def word (text : String) : Expr := .keyword text
def soft (text : String) : Expr := .softKeyword text
def ref (name : String) : Expr := .reference name
def seq (items : List Expr) : Expr := .sequence items
def alt (options : List Expr) : Expr := .choice options 0
def opt (body : Expr) : Expr := .optional body
def star (body : Expr) : Expr := .repetition .zero body none
def plus (body : Expr) : Expr := .repetition .one body none
def sepBy (separator body : Expr) : Expr := .repetition .one body (some separator)
def remark (text : String) : Expr := .note text

structure Definition where
  name : String
  body : Expr

structure Chapter where
  id : String
  title : String
  definitions : List Definition

end Trackplan.Python
