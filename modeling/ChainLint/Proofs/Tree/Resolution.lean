import ChainLint.Lint.Analysis
import ChainLint.Proofs.Tree.Scoping

namespace ChainLint.Tree

namespace Scope

theorem mem_of_find? {σ : Scope} {name : String} {b : NodeId} (h : σ.find? name = some b) :
    (name, b) ∈ σ := by
  rw [find?] at h
  split at h
  · cases h
  · obtain ⟨before, after, rfl, -⟩ := List.lookup_eq_some_iff.mp h
    exact List.mem_append_right _ List.mem_cons_self

theorem exprs_eq_map (σ : Scope) (es : List Expr) : exprs σ es = es.map (expr σ) := by
  induction es with
  | nil => rfl
  | cons e es ih => rw [exprs, ih, List.map_cons]

theorem optional_eq_map (σ : Scope) (o : Option Expr) : optional σ o = o.map (expr σ) := by
  cases o <;> rfl

def stmt (σ : Scope) : Stmt → Stmt
  | .expr i value => .expr i (expr σ value)
  | .letIn i p declared value => .letIn i p declared (optional σ value)

theorem introduced_tuple (i : Info) (elems : List Pat) :
    Node.introduced [.pat (.tuple i elems)] = Node.introduced (elems.map .pat) := by
  rw [Node.introduced, List.flatMap_cons, (Node.pat (.tuple i elems)).preorder_eq,
    List.flatMap_nil, List.append_nil, List.filterMap_cons_none rfl]
  rfl

theorem introduced_param (p : Param) :
    Node.introduced [.param p] = Node.introduced [.pat p.pattern] := by
  rw [Node.introduced, List.flatMap_cons, (Node.param p).preorder_eq, List.flatMap_nil,
    List.append_nil, List.filterMap_cons_none rfl]
  rfl

theorem introduced_params (ps : List Param) :
    Node.introduced (ps.map .param) = Node.introduced ((ps.map Param.pattern).map .pat) := by
  induction ps with
  | nil => rfl
  | cons p ps ih =>
      rw [List.map_cons, List.map_cons, List.map_cons, Node.introduced_cons, introduced_param, ih,
        ← Node.introduced_cons]

mutual

theorem bind_eq (σ : Scope) : (p : Pat) → σ.bind p = (Node.introduced [.pat p]).reverse ++ σ
  | .binding .. | .wild .. => rfl
  | .tuple i elems => by rw [bind, bindAll_eq σ elems, introduced_tuple]

theorem bindAll_eq (σ : Scope) :
    (ps : List Pat) → σ.bindAll ps = (Node.introduced (ps.map .pat)).reverse ++ σ
  | [] => rfl
  | p :: ps => by
      rw [bindAll, bindAll_eq _ ps, bind_eq σ p, List.map_cons,
        Node.introduced_cons (.pat p) (ps.map .pat), List.reverse_append, List.append_assoc]

end

theorem bindParams_eq (σ : Scope) (ps : List Param) :
    σ.bindParams ps = (Node.introduced (ps.map .param)).reverse ++ σ := by
  rw [bindParams, bindAll_eq, introduced_params]

theorem afterStmts_eq (σ : Scope) (ss : List Stmt) :
    σ.afterStmts ss = (Node.introduced (Node.letPatterns ss)).reverse ++ σ := by
  induction ss generalizing σ with
  | nil => rfl
  | cons s ss ih =>
      cases s with
      | expr => exact ih σ
      | letIn i p declared value =>
          rw [afterStmts, ih, bind_eq, Node.letPatterns,
            Node.introduced_cons (.pat p) (Node.letPatterns ss), List.reverse_append, List.append_assoc]

theorem letPatterns_stmts (σ : Scope) (ss : List Stmt) :
    Node.letPatterns (stmts σ ss) = Node.letPatterns ss := by
  induction ss generalizing σ with
  | nil => rfl
  | cons s ss ih => cases s <;> simp only [stmts, Node.letPatterns, ih]

theorem stmts_split {σ : Scope} {ss before' after' : List Stmt} {s' : Stmt}
    (h : stmts σ ss = before' ++ s' :: after') : ∃ before s after, ss = before ++ s :: after ∧
      stmts σ before = before' ∧ s' = stmt (σ.afterStmts before) s := by
  induction ss generalizing σ before' with
  | nil => simp [stmts] at h
  | cons s ss ih =>
      have hcons : stmts σ (s :: ss) = stmt σ s :: stmts (σ.afterStmts [s]) ss := by
        cases s <;> rfl
      rw [hcons] at h
      cases before' with
      | nil =>
          obtain ⟨h, -⟩ := List.cons.inj h
          exact ⟨[], s, ss, rfl, rfl, h.symm⟩
      | cons t before' =>
          obtain ⟨rfl, htail⟩ := List.cons.inj h
          obtain ⟨before, u, after, rfl, rfl, rfl⟩ := ih htail
          refine ⟨s :: before, u, after, rfl, ?_, ?_⟩
          · cases s <;> rfl
          · cases s <;> rfl

end Scope

namespace Node

def resolve (σ : Scope) : Node → Node
  | .module m => .module m.resolve
  | .function f => .function (Scope.function f)
  | .param p => .param p
  | .pat p => .pat p
  | .block b => .block (Scope.block σ b)
  | .stmt s => .stmt (Scope.stmt σ s)
  | .expr e => .expr (Scope.expr σ e)

def isItem : Node → Bool
  | .module _ | .function _ => true
  | _ => false

theorem not_expr_of_mem_pat {v : Node} {p : Pat} (h : v ∈ (Node.pat p).preorder) :
    ∃ q, v = .pat q := by
  generalize hn : Node.pat p = n at h
  induction n using child_induction generalizing p with
  | step n ih =>
      subst hn
      rcases mem_preorder_iff.mp h with rfl | ⟨c, hc, hv⟩
      · exact ⟨p, rfl⟩
      · cases p with
        | tuple i elems =>
            obtain ⟨q, hq, rfl⟩ := List.mem_map.mp hc
            exact ih _ hc rfl hv
        | binding => cases hc
        | wild => cases hc

theorem not_expr_of_mem_param {v : Node} {p : Param} {e : Expr} (h : v ∈ (Node.param p).preorder) :
    v ≠ .expr e := by
  rintro rfl
  rcases mem_preorder_iff.mp h with h | ⟨c, hc, hv⟩
  · cases h
  · obtain rfl := List.mem_singleton.mp hc
    obtain ⟨q, hq⟩ := not_expr_of_mem_pat hv
    cases hq

def opensNone : Node → Bool
  | .function _ | .block _ | .expr (.closure ..) | .expr (.forLoop ..) => false
  | _ => true

theorem opensNone_resolve (σ : Scope) (n : Node) : (n.resolve σ).opensNone = n.opensNone := by
  cases n with
  | expr e => cases e <;> rfl
  | _ => rfl

theorem not_opens {n part : Node} {p : Pat} (hn : n.opensNone = true) : ¬ Opens n p part := by
  intro h
  cases h <;> cases hn

theorem introduced_eq_nil {n c : Node} {ns : List Node} (h : Sees n ns c)
    (hn : n.opensNone = true) : introduced ns = [] := by
  cases h with
  | iterable | plain => rfl
  | _ => cases hn

theorem children_resolve {n : Node} (σ : Scope) (hn : n.opensNone = true) :
    (n.resolve σ).children = n.children.map (resolve σ) := by
  cases n with
  | module m => simp [resolve, children, Module.resolve]
  | function f => cases hn
  | param p => rfl
  | pat p => cases p <;> simp [resolve, children]
  | block b => cases hn
  | stmt s =>
      cases s <;> simp [resolve, Scope.stmt, children, Scope.optional_eq_map, Option.toList_map]
  | expr e =>
      cases e with
      | closure => cases hn
      | forLoop => cases hn
      | _ => simp [resolve, Scope.expr, children, Expr.children, Scope.exprs_eq_map,
          Scope.optional_eq_map, Option.toList_map, Function.comp_def]

theorem child_resolve {n c' : Node} {σ : Scope} (hσ : n.isItem = true → σ = [])
    (h : c' ∈ (n.resolve σ).children) :
    (∀ e, .expr e ∉ c'.preorder) ∨ ∃ ns c, c ∈ n.children ∧ Sees (n.resolve σ) ns c' ∧
      c' = c.resolve ((introduced ns).reverse ++ σ) := by
  by_cases hn : n.opensNone = true
  · have hplain (p : Pat) (part : Node) : ¬ Opens (n.resolve σ) p part :=
      not_opens ((n.opensNone_resolve σ).trans hn)
    have hc := h
    rw [children_resolve σ hn] at hc
    obtain ⟨c, hcn, rfl⟩ := List.mem_map.mp hc
    exact .inr ⟨[], c, hcn, .plain hplain h, rfl⟩
  · have param {ps : List Param} (hp : c' ∈ ps.map Node.param) : ∀ e, .expr e ∉ c'.preorder := by
      obtain ⟨p, -, rfl⟩ := List.mem_map.mp hp
      exact fun e he => not_expr_of_mem_param he rfl
    cases n with
    | function f =>
        cases hσ rfl
        rcases List.mem_append.mp h with h | h
        · exact .inl (param h)
        · obtain rfl := List.mem_singleton.mp h
          refine .inr ⟨_, .block f.body, by simp [children], .function, ?_⟩
          rw [resolve, ← Scope.bindParams_eq]
          rfl
    | block b =>
        obtain ⟨i, ss, tail⟩ := b
        rcases List.mem_append.mp h with h | h
        · obtain ⟨s', hs', rfl⟩ := List.mem_map.mp h
          obtain ⟨before', after', hsplit⟩ := List.append_of_mem hs'
          obtain ⟨before, s, after, rfl, rfl, rfl⟩ := Scope.stmts_split hsplit
          refine .inr ⟨letPatterns (Scope.stmts σ before), .stmt s, by simp [children], ?_, ?_⟩
          · rw [resolve, Scope.block, hsplit]
            exact .stmt
          · rw [Scope.letPatterns_stmts, ← Scope.afterStmts_eq]
            rfl
        · obtain ⟨e', he', rfl⟩ := List.mem_map.mp h
          cases tail with
          | none => cases he'
          | some e =>
              obtain rfl := List.mem_singleton.mp he'
              refine .inr ⟨_, .expr e, by simp [children], .tail, ?_⟩
              rw [Scope.letPatterns_stmts, ← Scope.afterStmts_eq]
              rfl
    | expr e =>
        cases e with
        | closure i ps body isMove =>
            rcases List.mem_append.mp h with h | h
            · exact .inl (param h)
            · obtain rfl := List.mem_singleton.mp h
              refine .inr ⟨_, .expr body, by simp [children, Expr.children], .closure, ?_⟩
              rw [resolve, ← Scope.bindParams_eq]
        | forLoop i p iterable body =>
            rcases List.mem_cons.mp h with rfl | h
            · refine .inl fun e he => ?_
              obtain ⟨q, hq⟩ := not_expr_of_mem_pat he
              cases hq
            · rcases List.mem_cons.mp h with rfl | h
              · exact .inr ⟨_, .expr iterable, by simp [children, Expr.children], .iterable, rfl⟩
              · obtain rfl := List.mem_singleton.mp h
                refine .inr ⟨_, .block body, by simp [children, Expr.children], .loopBody, ?_⟩
                rw [resolve, ← Scope.bind_eq]
        | _ => exact absurd rfl hn
    | _ => exact absurd rfl hn

theorem isItem_of_child {n c : Node} (hc : c ∈ n.children) (hi : c.isItem = true) :
    n.isItem = true ∧ n.opensNone = true := by
  cases n with
  | module m => exact ⟨rfl, rfl⟩
  | pat p => cases p <;> grind [children, isItem]
  | block b => cases b; grind [children, isItem]
  | stmt s => cases s <;> grind [children, isItem]
  | expr e => cases e <;> grind [children, Expr.children, isItem]
  | _ => grind [children, isItem]

theorem reaches_of_mem_resolve {n : Node} {σ : Scope} {i : Info} {name : String}
    {binding : Option NodeId} (hσ : n.isItem = true → σ = [])
    (h : .expr (.var i name binding) ∈ (n.resolve σ).preorder) :
    ∃ τ, Reaches σ (n.resolve σ) τ (.expr (.var i name binding)) ∧ binding = τ.find? name := by
  induction n using child_induction generalizing σ with
  | step n ih =>
      rcases mem_preorder_iff.mp h with hv | ⟨c', hc', hv⟩
      · refine ⟨σ, hv ▸ .here, ?_⟩
        cases n with
        | expr e =>
            cases e with
            | var =>
                cases hv
                rfl
            | _ => cases hv
        | _ => cases hv
      · rcases child_resolve hσ hc' with hnone | ⟨ns, c, hc, hs, rfl⟩
        · exact absurd hv (hnone _)
        · have hitem : c.isItem = true → (introduced ns).reverse ++ σ = [] := by
            intro hi
            obtain ⟨hn, ho⟩ := isItem_of_child hc hi
            rw [hσ hn, List.append_nil, List.reverse_eq_nil_iff]
            exact introduced_eq_nil hs ((opensNone_resolve σ n).trans ho)
          obtain ⟨τ, hr, hb⟩ := ih c hc hitem hv
          exact ⟨τ, .step hs hr, hb⟩

end Node

namespace Node

theorem id_resolve (σ : Scope) (n : Node) : (n.resolve σ).id = n.id := by
  cases n with
  | block b => cases b; rfl
  | stmt s => cases s <;> rfl
  | expr e => cases e <;> rfl
  | _ => rfl

theorem idsOf_map_resolve {σ : Scope} {ns : List Node}
    (h : ∀ c ∈ ns, (c.resolve σ).ids = c.ids) : idsOf (ns.map (resolve σ)) = idsOf ns := by
  induction ns with
  | nil => rfl
  | cons c ns ih =>
      rw [List.map_cons, idsOf_cons, idsOf_cons, h c List.mem_cons_self,
        ih fun d hd => h d (List.mem_cons_of_mem _ hd)]

theorem idsOf_stmts (ss : List Stmt) (h : ∀ s ∈ ss, ∀ σ, ((Node.stmt s).resolve σ).ids =
    (Node.stmt s).ids) (σ : Scope) :
    idsOf ((Scope.stmts σ ss).map .stmt) = idsOf (ss.map .stmt) := by
  induction ss generalizing σ with
  | nil => rfl
  | cons s ss ih =>
      have hcons : Scope.stmts σ (s :: ss) =
          Scope.stmt σ s :: Scope.stmts (σ.afterStmts [s]) ss := by
        cases s <;> rfl
      rw [hcons, List.map_cons, List.map_cons, idsOf_cons, idsOf_cons,
        ih (fun t ht => h t (List.mem_cons_of_mem _ ht))]
      congr 1
      exact h s List.mem_cons_self σ

theorem ids_resolve (n : Node) (σ : Scope) : (n.resolve σ).ids = n.ids := by
  induction n using child_induction generalizing σ with
  | step n ih =>
      rw [ids_eq, ids_eq, id_resolve]
      congr 1
      by_cases hn : n.opensNone = true
      · rw [children_resolve σ hn]
        exact idsOf_map_resolve fun c hc => ih c hc σ
      · cases n with
        | function f =>
            have hb := ih (.block f.body) (by simp [children]) (Scope.bindParams [] f.params)
            simp only [resolve, children, Scope.function, idsOf_append, idsOf_singleton] at hb ⊢
            rw [hb]
        | block b =>
            obtain ⟨i, ss, tail⟩ := b
            have hs := idsOf_stmts ss (fun s hs τ => ih (.stmt s) (by simp [children, hs]) τ) σ
            simp only [resolve, children, Scope.block, idsOf_append, hs]
            congr 1
            cases tail with
            | none => rfl
            | some e =>
                have he := ih (.expr e) (by simp [children]) (σ.afterStmts ss)
                simp only [Scope.optional, Option.toList_some, List.map_cons, List.map_nil,
                  idsOf_singleton]
                exact he
        | expr e =>
            cases e with
            | closure i ps body isMove =>
                have hb := ih (.expr body) (by simp [children, Expr.children]) (σ.bindParams ps)
                simp only [resolve, children, Expr.children, Scope.expr, idsOf_append,
                  idsOf_singleton] at hb ⊢
                rw [hb]
            | forLoop i p iterable body =>
                have hi := ih (.expr iterable) (by simp [children, Expr.children]) σ
                have hb := ih (.block body) (by simp [children, Expr.children]) (σ.bind p)
                simp only [resolve, children, Expr.children, Scope.expr, idsOf_cons] at hi hb ⊢
                rw [hi, hb]
            | _ => exact absurd rfl hn
        | _ => exact absurd rfl hn

end Node

theorem Module.ordered_resolve_number (m : Module) (start : NodeId) :
    (Node.module (m.number start).1.resolve).Ordered := by
  have h := Node.ids_resolve (.module (m.number start).1) []
  rw [Node.Ordered]
  exact h ▸ (m.number_consecutive start).pairwise

def Node.localsInScope (root : Node) (name : String) (use : Node) : Set NodeId :=
  {j | ∃ i isMut, i.id = j ∧ root.InScope (.pat (.binding i name isMut)) use}

/-- A use of a local carries the greatest number among the bindings of its name in scope, and none
if there is no such binding. A path of several segments is no use of a local. -/
theorem Module.binding_resolve (m : Module) {i : Info} {name : String} {binding : Option NodeId}
    (h : .expr (.var i name binding) ∈ (Node.module (Analysis.ofModule m).module).preorder) :
    let locals := (Node.module (Analysis.ofModule m).module).localsInScope name
      (.expr (.var i name binding))
    ([':', ':'] <:+: name.toList → binding = none) ∧
      (¬ [':', ':'] <:+: name.toList →
        (∀ id, binding = some id ↔ IsGreatest locals id) ∧ (binding = none ↔ locals = ∅)) := by
  intro locals
  have hordered := m.ordered_resolve_number 1
  obtain ⟨τ, hr, hb⟩ := Node.reaches_of_mem_resolve (n := .module (m.number 1).1) (fun _ => rfl) h
  have hlatest := hr.latest hordered .nil (fun x hx => absurd hx List.not_mem_nil)
  have hlocals : {j | (name, j) ∈ τ} = locals := by
    ext j
    refine (hr.mem_scope hordered (name, j)).trans ?_
    simp only [List.not_mem_nil, false_or]
    constructor
    · rintro ⟨b, hx, hin⟩
      unfold Node.binding? at hx
      split at hx
      · next k _ isMut =>
          cases hx
          exact ⟨k, isMut, rfl, hin⟩
      · cases hx
    · rintro ⟨k, isMut, rfl, hin⟩
      exact ⟨_, rfl, hin⟩
  rw [Scope.find?, Scope.isQualified] at hb
  constructor
  · intro hq
    rw [hb, if_pos ((Scope.hasPathSep_iff _).mpr hq)]
  · intro hq
    rw [if_neg (fun hsep => hq ((Scope.hasPathSep_iff _).mp hsep))] at hb
    rw [hb]
    constructor
    · intro id
      rw [Scope.lookup_eq_some_iff hlatest, hlocals]
    · rw [Scope.lookup_eq_none_iff, ← hlocals, Set.eq_empty_iff_forall_notMem]
      rfl

theorem Module.binding_resolve_inner :
    let i : Info := ⟨0, {}⟩
    let m : Module := ⟨i, none, [⟨i, "f", [⟨i, .binding i "a" false, none⟩],
      .mk i [.letIn i (.binding i "a" false) none (some (.var i "a" none))]
        (some (.var i "a" none)), none⟩]⟩
    let use : Node := .expr (.var ⟨9, {}⟩ "a" (some 7))
    use ∈ (Node.module (Analysis.ofModule m).module).preorder ∧
      IsGreatest ((Node.module (Analysis.ofModule m).module).localsInScope "a" use) 7 := by
  intro i m use
  have h : use ∈ (Node.module (Analysis.ofModule m).module).preorder :=
    List.mem_of_getElem? (i := 8) rfl
  exact ⟨h, (((m.binding_resolve h).2 (by decide)).1 7).mp rfl⟩

end ChainLint.Tree
