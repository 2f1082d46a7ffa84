import IioXml.CString

/-!
# The document tree and how the builder walks it

libxml2 hands the builder a tree of `xmlNode`s.  Each element has a name, a list of
attributes (`properties`, each an `xmlAttr` whose text child holds its value) and a list
of children in document order; text between elements appears as children named
`"text"`.  The builder only ever reads a node's name, walks its attributes, and walks
its children, with a `for` loop over the sibling list each time.

Two kinds of loops occur, and this file proves the laws of each:

* loops over the attributes that overwrite a variable each time a given name appears
  (`assignFromAttrs`) end with the *last* such attribute (`foldl_lastAttr`, `lastAttr`),
  also when the attributes are those of several children (`foldl_lastAttr_children`);
* loops over children whose step either fails with a fixed error or updates the state
  are `all`-or-nothing (`foldlM_all_or_error`), and a step that appends to one field for
  the children of one name collects exactly those children, in order
  (`foldl_collect`).
-/

namespace IioXml

/-- `xmlAttr`: an attribute's name and `attr->children->content`, the text of its first
child; the later children of a value libxml2 splits at an entity reference are not read. -/
structure XmlAttr where
  name : String
  content : CStr

/-- `xmlNode`: an element, with its attributes and children in document order.  Every
node has a name: a CDATA section, whose NULL name the child loops would pass to
`strcmp`, is outside the model. -/
structure XmlNode where
  name : String
  properties : List XmlAttr
  children : List XmlNode

/-- `xmlDoc`, of which the builder reads the root element only. -/
structure XmlDoc where
  root : XmlNode

/-- `xmlDocGetRootElement`. -/
def xmlDocGetRootElement (doc : XmlDoc) : XmlNode := doc.root

/-- The last attribute named `n`. -/
def lastAttr (props : List XmlAttr) (n : String) : Option XmlAttr :=
  props.reverse.find? (·.name = n)

/-- The children of an element with a given name, in document order. -/
def XmlNode.childrenNamed (node : XmlNode) (n : String) : List XmlNode :=
  node.children.filter (·.name = n)

@[simp] theorem XmlNode.mem_childrenNamed {node c : XmlNode} {n : String} :
    c ∈ node.childrenNamed n ↔ c ∈ node.children ∧ c.name = n := by
  simp [XmlNode.childrenNamed]

/-- The loop `for (attr = n->properties; attr; attr = attr->next)` that sets a variable,
starting at `init`, to `f attr` at each attribute named `k`: the shape of every loop over
attributes in the builder.  A loop that sets several variables, each under its own
name, is one such loop per variable. -/
def assignFromAttrs {β : Type} (props : List XmlAttr) (k : String) (f : XmlAttr → β)
    (init : β) : β :=
  props.foldl (fun v a => if a.name = k then f a else v) init

theorem lastAttr_cons (a : XmlAttr) (props : List XmlAttr) (k : String) :
    lastAttr (a :: props) k = (lastAttr props k).or (if a.name = k then some a else none) := by
  simp only [lastAttr, List.reverse_cons, List.find?_append]
  by_cases h : a.name = k <;> simp [h]

theorem lastAttr_append (xs ys : List XmlAttr) (k : String) :
    lastAttr (xs ++ ys) k = (lastAttr ys k).or (lastAttr xs k) := by
  simp [lastAttr, List.find?_append]

theorem lastAttr_isSome_iff (props : List XmlAttr) (k : String) :
    (lastAttr props k).isSome ↔ ∃ a ∈ props, a.name = k := by
  simp [lastAttr, List.find?_isSome]

theorem lastAttr_eq_some {props : List XmlAttr} {k : String} {a : XmlAttr}
    (h : lastAttr props k = some a) : a ∈ props ∧ a.name = k := by
  unfold lastAttr at h
  exact ⟨List.mem_reverse.mp (List.mem_of_find?_eq_some h), by simpa using List.find?_some h⟩

/-- **A fold that only attributes named `k` change** in the component `get` ends with
the value the last of them sets, or the initial one when there is none. -/
theorem foldl_lastAttr {σ β : Type} (upd : σ → XmlAttr → σ) (get : σ → β) (k : String)
    (f : XmlAttr → β) (props : List XmlAttr)
    (h : ∀ a ∈ props, ∀ s, get (upd s a) = if a.name = k then f a else get s) (s : σ) :
    get (props.foldl upd s) = ((lastAttr props k).map f).getD (get s) := by
  induction props generalizing s with
  | nil => rfl
  | cons a props ih =>
    rw [List.foldl_cons, ih (fun b hb => h b (by simp [hb])), h a (by simp), lastAttr_cons]
    by_cases ha : a.name = k <;> cases lastAttr props k <;> simp [ha]

/-- The variable `assignFromAttrs` computes is set by the last attribute of its name. -/
@[simp] theorem assignFromAttrs_eq {β : Type} (props : List XmlAttr) (k : String)
    (f : XmlAttr → β) (init : β) :
    assignFromAttrs props k f init = ((lastAttr props k).map f).getD init :=
  foldl_lastAttr (fun v a => if a.name = k then f a else v) id k f props
    (fun _ _ _ => rfl) init

@[simp] theorem getD_map_some {α β : Type} (o : Option α) (f : α → β) :
    (o.map fun a => some (f a)).getD none = o.map f := by
  cases o <;> rfl

/-- A loop that sets a pointer to an attribute's text leaves the last such text. -/
theorem assignFromAttrs_some {β : Type} (props : List XmlAttr) (k : String)
    (f : XmlAttr → β) :
    assignFromAttrs props k (fun a => some (f a)) none = (lastAttr props k).map f := by
  simp

/-- **A fold over children** whose children named `sel` act on `get` as a fold over their
attributes with the last-attribute law, and whose other children leave `get` alone,
follows that law over the attributes of all children named `sel`, in order. -/
theorem foldl_lastAttr_children {σ β : Type} (upd : σ → XmlNode → σ) (get : σ → β)
    (sel k : String) (f : XmlAttr → β) (cs : List XmlNode)
    (h : ∀ c ∈ cs, ∀ s, get (upd s c) =
      if c.name = sel then ((lastAttr c.properties k).map f).getD (get s) else get s) (s : σ) :
    get (cs.foldl upd s) =
      ((lastAttr ((cs.filter (·.name = sel)).flatMap (·.properties)) k).map f).getD (get s) := by
  induction cs generalizing s with
  | nil => rfl
  | cons c cs ih =>
    rw [List.foldl_cons, ih (fun d hd => h d (by simp [hd])), h c (by simp)]
    by_cases hc : c.name = sel
    · simp only [hc, if_true, List.filter_cons, decide_True, List.flatMap_cons, lastAttr_append]
      cases lastAttr ((cs.filter (·.name = sel)).flatMap (·.properties)) k <;> simp
    · simp [hc, List.filter_cons]

/-- **A loop whose step either fails or makes a pure update** runs through when every
element passes, and otherwise stops at the first element that does not, with the error
that element raises in the state the elements before it left. -/
theorem foldlM_cases {σ α ε : Type} (step : σ → α → Except ε σ) (ok : α → Prop)
    [DecidablePred ok] (upd : σ → α → σ) (err : σ → α → ε)
    (h : ∀ s a, step s a = if ok a then .ok (upd s a) else .error (err s a))
    (l : List α) (s : σ) :
    ((∀ a ∈ l, ok a) ∧ l.foldlM step s = .ok (l.foldl upd s)) ∨
      ∃ l₁ a l₂, l = l₁ ++ a :: l₂ ∧ (∀ b ∈ l₁, ok b) ∧ ¬ ok a ∧
        l.foldlM step s = .error (err (l₁.foldl upd s) a) := by
  induction l generalizing s with
  | nil => exact .inl ⟨by simp, rfl⟩
  | cons a l ih =>
    rw [List.foldlM_cons, h]
    by_cases ha : ok a
    · simp only [ha, if_true]
      rcases ih (upd s a) with ⟨hall, hrun⟩ | ⟨l₁, b, l₂, rfl, hl₁, hb, hrun⟩
      · exact .inl ⟨List.forall_mem_cons.mpr ⟨ha, hall⟩,
          by simpa [bind, Except.bind] using hrun⟩
      · exact .inr ⟨a :: l₁, b, l₂, rfl, List.forall_mem_cons.mpr ⟨ha, hl₁⟩, hb,
          by simpa [bind, Except.bind] using hrun⟩
    · exact .inr ⟨[], a, l, rfl, by simp, ha, by simp [ha, bind, Except.bind]⟩

/-- **A loop whose step fails with one error or makes a pure update** succeeds exactly
when every element passes, and then it is the pure fold. -/
theorem foldlM_all_or_error {σ α ε : Type} (step : σ → α → Except ε σ) (ok : α → Prop)
    [DecidablePred ok] (upd : σ → α → σ) (e : ε)
    (h : ∀ s a, step s a = if ok a then .ok (upd s a) else .error e) (l : List α) (s : σ) :
    l.foldlM step s = if ∀ a ∈ l, ok a then .ok (l.foldl upd s) else .error e := by
  rcases foldlM_cases step ok upd (fun _ _ => e) h l s with
    ⟨hall, hrun⟩ | ⟨l₁, a, l₂, rfl, -, ha, hrun⟩
  · rw [if_pos hall, hrun]
  · rw [if_neg (fun hall => ha (hall a (by simp))), hrun]

/-- **A loop that appends to one field** for each element satisfying `p` collects
exactly those elements, in order. -/
theorem foldl_collect {σ α β : Type} (upd : σ → α → σ) (get : σ → List β) (p : α → Prop)
    [DecidablePred p] (f : α → β)
    (h : ∀ s a, get (upd s a) = if p a then get s ++ [f a] else get s) (l : List α) (s : σ) :
    get (l.foldl upd s) = get s ++ (l.filter p).map f := by
  induction l generalizing s with
  | nil => simp
  | cons a l ih =>
    rw [List.foldl_cons, ih, h]
    by_cases ha : p a <;> simp [ha]

/-- A field that no step touches is left as it was. -/
theorem foldl_keep {σ α β : Type} (upd : σ → α → σ) (get : σ → β)
    (h : ∀ s a, get (upd s a) = get s) (l : List α) (s : σ) :
    get (l.foldl upd s) = get s := by
  induction l generalizing s with
  | nil => rfl
  | cons a l ih => rw [List.foldl_cons, ih, h]

/-- A Boolean that each step can only set follows `List.any`. -/
theorem foldl_any {σ α : Type} (upd : σ → α → σ) (get : σ → Bool) (q : α → Bool)
    (h : ∀ s a, get (upd s a) = (get s || q a)) (l : List α) (s : σ) :
    get (l.foldl upd s) = (get s || l.any q) := by
  induction l generalizing s with
  | nil => simp
  | cons a l ih => rw [List.foldl_cons, ih, h, List.any_cons, Bool.or_assoc]

/-- An element whose step changes nothing can be dropped from a monadic loop. -/
theorem foldlM_skip {σ α ε : Type} (step : σ → α → Except ε σ) {c : α}
    (hc : ∀ s, step s c = .ok s) (l₁ l₂ : List α) (s : σ) :
    (l₁ ++ c :: l₂).foldlM step s = (l₁ ++ l₂).foldlM step s := by
  simp only [List.foldlM_append, List.foldlM_cons, hc]
  rfl

/-- An attribute of another name can be dropped from a loop that assigns `k`. -/
theorem assignFromAttrs_skip {β : Type} (l₁ l₂ : List XmlAttr) {a : XmlAttr} {k : String}
    (h : a.name ≠ k) (f : XmlAttr → β) (init : β) :
    assignFromAttrs (l₁ ++ a :: l₂) k f init = assignFromAttrs (l₁ ++ l₂) k f init := by
  simp only [assignFromAttrs, List.foldl_append, List.foldl_cons, if_neg h]

end IioXml
