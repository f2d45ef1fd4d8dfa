import GLBindings.Xml.Node
import Mathlib.Data.List.Forall2

namespace GLBindings.Xml

/-- The second list is the first one with a comment more, somewhere among its nodes or inside one. -/
inductive Commented (s : String) : List Node → List Node → Prop
  | between (before after : List Node) :
      Commented s (before ++ after) (before ++ .comment s :: after)
  | within (before after : List Node) (t u : String) :
      Commented s (before ++ .text (t ++ u) :: after)
        (before ++ .text t :: .comment s :: .text u :: after)
  | inside (before after : List Node) (name : Name) (attributes : List Attribute) {l m : List Node}
      (h : Commented s l m) :
      Commented s (before ++ .element name attributes l :: after)
        (before ++ .element name attributes m :: after)

structure Element.Commented (s : String) (e e' : Element) : Prop where
  name : e'.name = e.name
  attributes : e'.attributes = e.attributes
  children : e'.children = e.children ∨ Xml.Commented s e.children e'.children

theorem Node.contents_append (l m : List Node) : contents (l ++ m) = contents l ++ contents m := by
  induction l with
  | nil => simp [contents]
  | cons n l ih => rw [List.cons_append, contents, contents, ih, String.append_assoc]

variable {s : String}

theorem Commented.contents_eq {l m : List Node} (h : Commented s l m) :
    Node.contents m = Node.contents l := by
  induction h with
  | between before after => simp [Node.contents_append, Node.contents, Node.content]
  | within before after t u =>
      simp [Node.contents_append, Node.contents, Node.content, String.append_assoc]
  | inside before after name attributes _ ih =>
      simp [Node.contents_append, Node.contents, Node.content, ih]

namespace Element.Commented

variable {e e' : Element}

theorem refl (e : Element) : e.Commented s e := ⟨rfl, rfl, .inl rfl⟩

theorem tag (h : e.Commented s e') : e'.tag = e.tag := congrArg Name.base h.name

theorem attribute? (h : e.Commented s e') (key : String) : e'.attribute? key = e.attribute? key := by
  rw [Element.attribute?, Element.attribute?, h.attributes]

theorem content (h : e.Commented s e') : e'.content = e.content := by
  rcases h.children with heq | hc
  · rw [Element.content, heq, Element.content]
  · exact hc.contents_eq

theorem forall₂_refl (l : List Element) : List.Forall₂ (Element.Commented s) l l :=
  List.forall₂_same.mpr fun e _ => refl e

theorem forall₂_elements {l m : List Node} (h : Xml.Commented s l m) :
    List.Forall₂ (Element.Commented s) (l.filterMap Node.element?) (m.filterMap Node.element?) := by
  cases h with
  | between before after | within before after t u =>
      simp only [List.filterMap_append, List.filterMap_cons, Node.element?]
      exact forall₂_refl _
  | inside before after name attributes h =>
      simp only [List.filterMap_append, List.filterMap_cons, Node.element?]
      exact List.rel_append (forall₂_refl _) (.cons ⟨rfl, rfl, .inr h⟩ (forall₂_refl _))

theorem elements (h : e.Commented s e') : List.Forall₂ (Element.Commented s) e.elements e'.elements := by
  rcases h.children with heq | hc
  · rw [Element.elements, Element.elements, heq]
    exact forall₂_refl _
  · exact forall₂_elements hc

end Element.Commented

end GLBindings.Xml
