import ChainLint.Proofs.Ty.Entries

namespace ChainLint

open Tree

namespace CallRule

def argless : Ty → List String
  | .option _ => ["is_some", "is_none", "cloned", "copied", "as_ref"]
  | .vec _ | .slice _ | .array _ => ["len", "first", "last", "to_vec", "pop", "iter"]
  | .string | .str =>
      ["len", "is_empty", "to_owned", "to_uppercase", "to_lowercase", "as_str", "trim"]
  | _ => []

def AsksAll (r : CallRule) : Prop := none ∉ r.first ∧ r.others ≠ none

theorem asksAll_free (ty : Ty) : (free ty).AsksAll := by simp [free, AsksAll]

theorem asksAll_hinted (hint ty : Ty) : (hinted hint ty).AsksAll := by simp [hinted, AsksAll]

theorem asksAll_calling (ps : List Ty) (f : Ty → Ty) : (calling ps f).AsksAll := by
  simp [calling, AsksAll]

def AsksUnless (names : List String) (name : String) (r : Option CallRule) : Prop :=
  ∀ r' ∈ r, r'.AsksAll ∨ name ∈ names

section

variable {names : List String} {name : String} {arity : Nat}

theorem AsksUnless.all {r : CallRule} (h : r.AsksAll) : AsksUnless names name (some r) :=
  fun _ hr => .inl (Option.mem_some_iff.mp hr ▸ h)

theorem AsksUnless.of_mem {r : Option CallRule} (h : name ∈ names) : AsksUnless names name r :=
  fun _ _ => .inr h

theorem AsksUnless.none : AsksUnless names name none := fun _ hr => absurd hr (Option.not_mem_none _)

theorem AsksUnless.ite {p : Prop} [Decidable p] {r s : Option CallRule} (hr : p → AsksUnless names name r)
    (hs : AsksUnless names name s) : AsksUnless names name (if p then r else s) := by
  split
  · next h => exact hr h
  · exact hs

theorem mem_of_contains {some all : List String} (hall : some ⊆ all) (h : some.contains name = true) :
    name ∈ all := hall (List.contains_iff_mem.mp h)

theorem asksUnless_ofOption (t : Ty) : AsksUnless (argless (.option t)) name (ofOption t name arity) := by
  unfold ofOption
  simp only [argless]
  refine .ite (fun _ => .all (asksAll_calling _ _)) ?_
  refine .ite (fun _ => .all (asksAll_calling _ _)) ?_
  refine .ite (fun _ => .all (by simp [AsksAll])) ?_
  refine .ite (fun _ => .all (asksAll_calling _ _)) ?_
  refine .ite (fun _ => .all (asksAll_calling _ _)) ?_
  refine .ite (fun _ => .all (asksAll_hinted _ _)) ?_
  refine .ite (fun _ => .all (asksAll_free _)) ?_
  refine .ite (fun h => .of_mem (mem_of_contains (by decide) h)) ?_
  refine .ite (fun h => .of_mem (mem_of_contains (by decide) h)) ?_
  refine .ite (fun h => .of_mem (by subst h; decide)) ?_
  exact .ite (fun _ => .all (asksAll_hinted _ _)) .none

theorem asksUnless_ofSequence (t : Ty) : AsksUnless (argless (.vec t)) name (ofSequence t name arity) := by
  unfold ofSequence
  simp only [argless]
  refine .ite (fun h => .of_mem (by subst h; decide)) ?_
  refine .ite (fun _ => .all (asksAll_free _)) ?_
  refine .ite (fun _ => .all (by simp [AsksAll])) ?_
  refine .ite (fun h => .of_mem (mem_of_contains (by decide) h)) ?_
  refine .ite (fun h => .of_mem (by subst h; decide)) ?_
  refine .ite (fun h => .of_mem (by subst h; decide)) ?_
  refine .ite (fun _ => .all (asksAll_hinted _ _)) ?_
  exact .ite (fun h => .of_mem (by subst h; decide)) .none

theorem asksUnless_ofText : AsksUnless (argless .str) name (ofText name) := by
  unfold ofText
  simp only [argless]
  refine .ite (fun h => .of_mem (by subst h; decide)) ?_
  refine .ite (fun h => .of_mem (by subst h; decide)) ?_
  refine .ite (fun h => .of_mem (mem_of_contains (by decide) h)) ?_
  exact .ite (fun h => .of_mem (mem_of_contains (by decide) h)) .none

theorem asksUnless_ofScalar (s : Scalar) : AsksUnless [] name (ofScalar s name) := by
  unfold ofScalar
  refine .ite (fun _ => .all (asksAll_hinted _ _)) ?_
  exact .ite (fun _ => .all (asksAll_hinted _ _)) .none

theorem asksAll_ofMethod {base : Ty} (h : name ∉ argless base) (arity : Nat) :
    (ofMethod base name arity).AsksAll := by
  have hgetD {r : Option CallRule} (hr : AsksUnless (argless base) name r) :
      (r.getD (free .unknown)).AsksAll := by
    cases r with
    | none => exact asksAll_free _
    | some r => exact (hr r rfl).resolve_right h
  unfold ofMethod
  split
  · exact asksAll_free _
  · split
    · exact asksAll_free _
    · refine hgetD ?_
      cases base with
      | option t => exact asksUnless_ofOption t
      | vec t | slice t | array t => exact asksUnless_ofSequence t
      | string | str => exact asksUnless_ofText
      | scalar s => exact asksUnless_ofScalar s
      | _ => exact .none

theorem exists_untyped_ofMethod {base : Ty} (h : name ∈ argless base) (arity : Nat) :
    ∃ ty, ofMethod base name arity = untyped ty := by
  cases base with
  | option t =>
      simp only [argless, List.mem_cons, List.not_mem_nil, or_false] at h
      rcases h with rfl | rfl | rfl | rfl | rfl <;> cases t <;> exact ⟨_, rfl⟩
  | vec t | slice t | array t =>
      simp only [argless, List.mem_cons, List.not_mem_nil, or_false] at h
      rcases h with rfl | rfl | rfl | rfl | rfl | rfl <;> exact ⟨_, rfl⟩
  | string | str =>
      simp only [argless, List.mem_cons, List.not_mem_nil, or_false] at h
      rcases h with rfl | rfl | rfl | rfl | rfl | rfl | rfl <;> exact ⟨_, rfl⟩
  | _ => cases h

end

end CallRule

namespace Infer

def passedOver : List Node → List (Option Expected) → Option Expected → List Node
  | [], _, _ => []
  | n :: ns, first, others =>
      match first.headD others with
      | none => n :: passedOver ns first.tail others
      | some _ => passedOver ns first.tail others

theorem passedOver_of_asksAll {first : List (Option Expected)} {others : Option Expected}
    (hfirst : none ∉ first) (hothers : others ≠ none) (ns : List Node) :
    passedOver ns first others = [] := by
  induction ns generalizing first with
  | nil => rfl
  | cons n ns ih =>
      have hhead : first.headD others ≠ none := by
        cases first with
        | nil => exact hothers
        | cons x xs => exact fun h => hfirst (h ▸ List.mem_cons_self)
      obtain ⟨x, hx⟩ := Option.ne_none_iff_exists'.mp hhead
      rw [passedOver, hx]
      exact ih fun h => hfirst (List.mem_of_mem_tail h)

theorem passedOver_none (ns : List Node) : passedOver ns [] none = ns := by
  induction ns with
  | nil => rfl
  | cons n ns ih => exact congrArg (List.cons n) ih

theorem passedOver_subset (ns : List Node) (first : List (Option Expected))
    (others : Option Expected) : passedOver ns first others ⊆ ns := by
  induction ns generalizing first with
  | nil => exact List.Subset.refl _
  | cons n ns ih =>
      rw [passedOver]
      split
      · exact List.cons_subset_cons n (ih _)
      · exact List.subset_cons_of_subset n (ih _)

end Infer

namespace Analysis

variable (a : Analysis)

inductive Skips : Node → Node → Prop
  | path {i j : Info} {name : String} {args : List Expr}
      (h : name ∈ ["String::new", "String::from", "Vec::new"] ∨ name = "Some" ∧ args.length = 1) :
      Skips (.expr (.call i (.var j name none) args)) (.expr (.var j name none))
  | vecNew {i j : Info} {args : List Expr} {e : Expr} (h : e ∈ args) :
      Skips (.expr (.call i (.var j "Vec::new" none) args)) (.expr e)
  | method {i : Info} {receiver : Expr} {name : String} {s : Span} {args : List Expr} {e : Expr}
      (h : e ∈ args) (hname : name ∈ CallRule.argless (a.typeOf (.expr receiver)).peel) :
      Skips (.expr (.methodCall i receiver name s args)) (.expr e)

theorem Skips.child {n c : Node} (h : a.Skips n c) : c ∈ n.children := by
  cases h with
  | path => exact List.mem_cons_self
  | vecNew h | method h => exact List.mem_cons_of_mem _ (List.mem_map_of_mem h)

end Analysis

namespace Infer

theorem ofPath?_cases {name : String} {arity : Nat} {x : Expected} {r : CallRule}
    (h : CallRule.ofPath? name arity x = some r) :
    (name ∈ ["String::new", "String::from", "Vec::new"] ∨ name = "Some" ∧ arity = 1) ∧
      if name = "Vec::new" then ∃ ty, r = .untyped ty else r.AsksAll := by
  unfold CallRule.ofPath? at h
  split at h
  · next hsome =>
      cases h
      refine ⟨.inr hsome, ?_⟩
      obtain ⟨rfl, -⟩ := hsome
      exact ⟨by simp, by simp⟩
  · split at h
    · next hstring =>
        cases h
        rcases hstring with rfl | rfl
        · exact ⟨.inl (by decide), CallRule.asksAll_free _⟩
        · exact ⟨.inl (by decide), CallRule.asksAll_free _⟩
    · split at h
      · next hvec =>
          subst hvec
          refine ⟨.inl (by decide), ?_⟩
          split at h <;> (cases h; exact ⟨_, rfl⟩)
      · cases h

theorem ofPath?_eq_none {name : String} {arity : Nat} {x : Expected}
    (h : CallRule.ofPath? name arity x = none) :
    name ∉ ["String::new", "String::from", "Vec::new"] ∧ ¬ (name = "Some" ∧ arity = 1) := by
  unfold CallRule.ofPath? at h
  split at h
  · cases h
  · next hsome =>
      split at h
      · cases h
      · next hstring =>
          split at h
          · split at h <;> cases h
          · next hvec =>
              refine ⟨fun hmem => ?_, hsome⟩
              simp only [List.mem_cons, List.not_mem_nil, or_false] at hmem
              tauto

theorem exists_of_pathRule? {callee : Expr} {arity : Nat} {x : Expected} {r : CallRule}
    (h : pathRule? callee arity x = some r) :
    ∃ j name, callee = .var j name none ∧ CallRule.ofPath? name arity x = some r := by
  unfold pathRule? at h
  split at h
  · exact ⟨_, _, rfl, h⟩
  · cases h

theorem asksAll_ofCallee (ty : Ty) : (CallRule.ofCallee ty).AsksAll := by
  cases ty <;> simp [CallRule.ofCallee, CallRule.free, CallRule.AsksAll]

theorem none_notMem_toBind (tys : List Ty) : none ∉ toBind tys := by simp [toBind]

theorem none_notMem_elemHints (x : Expected) (n : Nat) : none ∉ elemHints x n := by
  unfold elemHints
  split
  · split
    · exact none_notMem_toBind _
    · exact List.not_mem_nil
  · exact List.not_mem_nil

def isCall : Node → Bool
  | .expr (.call ..) | .expr (.methodCall ..) => true
  | _ => false

theorem asksAll_rule (τ : Typing) (x : Expected) (parts : List Ty) {n : Node}
    (hn : isCall n = false) : (rule τ x parts n).AsksAll := by
  cases n with
  | function => exact ⟨none_notMem_toBind _, Option.some_ne_none _⟩
  | pat p =>
      cases p with
      | tuple => exact ⟨none_notMem_toBind _, Option.some_ne_none _⟩
      | _ => exact CallRule.asksAll_free _
  | stmt s => cases s <;> simp [rule, stmtRule, CallRule.free, CallRule.AsksAll]
  | expr e =>
      cases e with
      | call | methodCall => cases hn
      | tuple => exact ⟨none_notMem_elemHints _ _, Option.some_ne_none _⟩
      | closure => exact ⟨none_notMem_toBind _, Option.some_ne_none _⟩
      | _ => simp [rule, exprRule, CallRule.free, CallRule.AsksAll]
  | _ => simp [rule, CallRule.free, CallRule.AsksAll]

section

variable {a : Analysis} {x : Expected} {parts : List Ty} {us : List Node} {c : Node}

theorem passedOver_call {i : Info} {callee : Expr} {args : List Expr} :
    c ∈ passedOver (.expr callee :: args.map .expr)
      (exprRule a.typing x parts (.call i callee args)).first
      (exprRule a.typing x parts (.call i callee args)).others ↔
      a.Skips (.expr (.call i callee args)) c := by
  have hargs {r : CallRule} (hr : r.AsksAll) : passedOver (args.map .expr) r.first r.others = [] :=
    passedOver_of_asksAll hr.1 hr.2 _
  rw [exprRule]
  cases hpath : pathRule? callee args.length x with
  | none =>
      have hnone : passedOver (.expr callee :: args.map .expr)
          ((CallRule.ofCallee (parts.headD .unknown)).after (some .nothing)).first
          ((CallRule.ofCallee (parts.headD .unknown)).after (some .nothing)).others = [] :=
        hargs (asksAll_ofCallee _)
      rw [hnone]
      refine ⟨fun h => absurd h List.not_mem_nil, fun h => ?_⟩
      cases h with
      | path h => exact absurd h (not_or.mpr (ofPath?_eq_none hpath))
      | vecNew h => exact absurd (by decide) (ofPath?_eq_none hpath).1
  | some r =>
      obtain ⟨j, name, rfl, hr⟩ := exists_of_pathRule? hpath
      obtain ⟨hname, hrest⟩ := ofPath?_cases hr
      change c ∈ .expr (.var j name none) :: passedOver (args.map .expr) r.first r.others ↔ _
      by_cases hvec : name = "Vec::new"
      · rw [if_pos hvec] at hrest
        obtain ⟨ty, rfl⟩ := hrest
        subst hvec
        rw [CallRule.untyped, passedOver_none]
        constructor
        · intro h
          rcases List.mem_cons.mp h with rfl | h
          · exact .path hname
          · obtain ⟨e, he, rfl⟩ := List.mem_map.mp h
            exact .vecNew he
        · exact fun h => h.child
      · rw [if_neg hvec] at hrest
        rw [hargs hrest, List.mem_singleton]
        constructor
        · rintro rfl
          exact .path hname
        · intro h
          cases h with
          | path => rfl
          | vecNew => exact absurd rfl hvec

theorem passedOver_method (hkeys : (a.typing.exprs.map Prod.fst).Nodup) {i : Info} {receiver : Expr}
    {name : String} {s : Span} {args : List Expr}
    (h : Typed a.typing (.expr receiver :: args.map .expr)
      (exprRule a.typing x parts (.methodCall i receiver name s args)).first
      (exprRule a.typing x parts (.methodCall i receiver name s args)).others parts us) :
    c ∈ passedOver (.expr receiver :: args.map .expr)
      (exprRule a.typing x parts (.methodCall i receiver name s args)).first
      (exprRule a.typing x parts (.methodCall i receiver name s args)).others ↔
      a.Skips (.expr (.methodCall i receiver name s args)) c := by
  obtain ⟨ty, hty, hhead⟩ : ∃ ty, (receiver.info.id, ty) ∈ a.typing.exprs ∧
      parts.headD .unknown = ty := by
    cases h with
    | skip hskip => cases hskip
    | cons _ _ _ hnoted => exact ⟨_, hnoted, rfl⟩
  have htype : a.typeOf (.expr receiver) = ty := Analysis.typeOf_of_mem hkeys hty
  rw [exprRule, hhead]
  change c ∈ passedOver (args.map .expr) (CallRule.ofMethod ty.peel name args.length).first
    (CallRule.ofMethod ty.peel name args.length).others ↔ _
  by_cases hname : name ∈ CallRule.argless ty.peel
  · obtain ⟨result, hr⟩ := CallRule.exists_untyped_ofMethod hname args.length
    rw [hr, CallRule.untyped, passedOver_none]
    constructor
    · intro h
      obtain ⟨e, he, rfl⟩ := List.mem_map.mp h
      exact .method he (htype ▸ hname)
    · intro h
      cases h with
      | method h => exact List.mem_map_of_mem h
  · obtain ⟨hfirst, hothers⟩ := CallRule.asksAll_ofMethod hname args.length
    rw [passedOver_of_asksAll hfirst hothers]
    refine ⟨fun h => absurd h List.not_mem_nil, fun h => ?_⟩
    cases h with
    | method _ h => exact absurd (htype ▸ h) hname

theorem passedOver_iff (hkeys : (a.typing.exprs.map Prod.fst).Nodup) {n : Node}
    (h : Typed a.typing n.children (rule a.typing x parts n).first (rule a.typing x parts n).others
      parts us) :
    c ∈ passedOver n.children (rule a.typing x parts n).first (rule a.typing x parts n).others ↔
      a.Skips n c := by
  by_cases hn : isCall n = true
  · unfold isCall at hn
    split at hn
    · exact passedOver_call
    · exact passedOver_method (x := x) hkeys h
    · cases hn
  · have hn : isCall n = false := by simpa using hn
    obtain ⟨hfirst, hothers⟩ := asksAll_rule a.typing x parts hn
    rw [passedOver_of_asksAll hfirst hothers]
    refine ⟨fun h => absurd h List.not_mem_nil, fun h => ?_⟩
    cases h <;> cases hn

def Passed (a : Analysis) (ns : List Node) (first : List (Option Expected)) (others : Option Expected)
    (v : Node) : Prop :=
  (∃ c ∈ passedOver ns first others, v ∈ c.preorder) ∨
    ∃ n ∈ ns.flatMap Node.preorder, ∃ c, a.Skips n c ∧ v ∈ c.preorder

variable {n v : Node} {ns : List Node} {first : List (Option Expected)} {others : Option Expected}
  {tys : List Ty} {vs : List Node}

theorem Passed.mem (h : Passed a ns first others v) : v ∈ ns.flatMap Node.preorder := by
  rcases h with ⟨c, hc, hv⟩ | ⟨m, hm, c, hc, hv⟩
  · exact List.mem_flatMap.mpr ⟨c, passedOver_subset ns first others hc, hv⟩
  · obtain ⟨d, hd, hmd⟩ := List.mem_flatMap.mp hm
    exact List.mem_flatMap.mpr
      ⟨d, hd, Node.mem_preorder_trans (Node.mem_preorder_of_child hc.child hv) hmd⟩

theorem passed_skip (hskip : first.headD others = none) : Passed a (n :: ns) first others v ↔
    v ∈ n.preorder ∨ Passed a ns first.tail others v := by
  have hpassed : passedOver (n :: ns) first others = n :: passedOver ns first.tail others := by
    rw [passedOver, hskip]
  rw [Passed, hpassed, List.flatMap_cons, Passed]
  constructor
  · rintro (⟨c, hc, hv⟩ | ⟨m, hm, c, hc, hv⟩)
    · rcases List.mem_cons.mp hc with rfl | hc
      · exact .inl hv
      · exact .inr (.inl ⟨c, hc, hv⟩)
    · rcases List.mem_append.mp hm with hm | hm
      · exact .inl (Node.mem_preorder_trans (Node.mem_preorder_of_child hc.child hv) hm)
      · exact .inr (.inr ⟨m, hm, c, hc, hv⟩)
  · rintro (hv | ⟨c, hc, hv⟩ | ⟨m, hm, hc⟩)
    · exact .inl ⟨n, List.mem_cons_self, hv⟩
    · exact .inl ⟨c, List.mem_cons_of_mem _ hc, hv⟩
    · exact .inr ⟨m, List.mem_append_right _ hm, hc⟩

theorem passed_cons (hkeys : (a.typing.exprs.map Prod.fst).Nodup) (hx : first.headD others = some x)
    {y : Expected} (hparts : Typed a.typing n.children (rule a.typing y parts n).first
      (rule a.typing y parts n).others parts us) : Passed a (n :: ns) first others v ↔
    Passed a n.children (rule a.typing y parts n).first (rule a.typing y parts n).others v ∨
      Passed a ns first.tail others v := by
  have hpassed : passedOver (n :: ns) first others = passedOver ns first.tail others := by
    rw [passedOver, hx]
  rw [Passed, hpassed, List.flatMap_cons, Node.preorder_eq, Passed, Passed]
  constructor
  · rintro (hlater | ⟨m, hm, c, hc, hv⟩)
    · exact .inr (.inl hlater)
    · rcases List.mem_append.mp hm with hm | hm
      · rcases List.mem_cons.mp hm with rfl | hm
        · exact .inl (.inl ⟨c, (passedOver_iff hkeys hparts).mpr hc, hv⟩)
        · exact .inl (.inr ⟨m, hm, c, hc, hv⟩)
      · exact .inr (.inr ⟨m, hm, c, hc, hv⟩)
  · rintro ((⟨c, hc, hv⟩ | ⟨m, hm, hc⟩) | hlater | ⟨m, hm, hc⟩)
    · exact .inr ⟨n, List.mem_append_left _ List.mem_cons_self, c,
        (passedOver_iff hkeys hparts).mp hc, hv⟩
    · exact .inr ⟨m, List.mem_append_left _ (List.mem_cons_of_mem _ hm), hc⟩
    · exact .inl hlater
    · exact .inr ⟨m, List.mem_append_right _ hm, hc⟩

theorem mem_idsOf (hv : v ∈ ns.flatMap Node.preorder) : v.id ∈ Node.idsOf ns := by
  obtain ⟨d, hd, hvd⟩ := List.mem_flatMap.mp hv
  exact List.mem_flatMap.mpr ⟨d, hd, List.mem_map_of_mem hvd⟩

theorem not_mem_of_nodup (hids : (Node.idsOf (n :: ns)).Nodup) (hv : v ∈ n.preorder) :
    v ∉ ns.flatMap Node.preorder := by
  intro hlater
  rw [Node.idsOf_cons, List.nodup_append] at hids
  exact hids.2.2 v.id (List.mem_map_of_mem hv) v.id (mem_idsOf hlater) rfl

theorem Typed.mem_iff (hkeys : (a.typing.exprs.map Prod.fst).Nodup)
    (h : Typed a.typing ns first others tys vs) (hids : (Node.idsOf ns).Nodup) {e : Expr}
    (he : .expr e ∈ ns.flatMap Node.preorder) :
    .expr e ∈ vs ↔ ¬ Passed a ns first others (.expr e) := by
  induction h with
  | nil => cases he
  | @skip n ns first others tys vs hskip hlater ih =>
      rw [List.flatMap_cons] at he
      rw [passed_skip hskip]
      rcases List.mem_append.mp he with he | he
      · have hnot := not_mem_of_nodup hids he
        exact ⟨fun hv => absurd (hlater.subperm.subset hv) hnot, fun h => absurd (.inl he) h⟩
      · have hnot : Node.expr e ∉ n.preorder := fun h => not_mem_of_nodup hids h he
        rw [ih (List.nodup_append.mp hids).2.1 he, not_or, and_iff_right hnot]
  | @cons n ns first others x parts ty tys us vs hx hparts _ _ hlater ihparts ihlater =>
      obtain ⟨hself, hids', -⟩ := List.nodup_append.mp hids
      rw [Node.ids_eq] at hself
      obtain ⟨hbelow, hchildren⟩ := List.nodup_cons.mp hself
      have hn : n ∉ n.children.flatMap Node.preorder := fun h => hbelow (mem_idsOf h)
      rw [passed_cons hkeys hx hparts, not_or, List.mem_append, List.mem_append]
      rw [List.flatMap_cons, Node.preorder_eq] at he
      rcases List.mem_append.mp he with he | he
      · have hnot := not_mem_of_nodup hids (n.preorder_eq ▸ he)
        have hlaternot : ¬ Passed a ns first.tail others (.expr e) := fun h => hnot h.mem
        rcases List.mem_cons.mp he with rfl | he
        · exact ⟨fun _ => ⟨fun h => hn h.mem, hlaternot⟩, fun _ => .inl (.inr List.mem_cons_self)⟩
        · have hne : Node.expr e ∉ noted n := fun h =>
            hn (List.mem_singleton.mp ((noted_sublist n).subset h) ▸ he)
          have hvs : Node.expr e ∉ vs := fun h => hnot (hlater.subperm.subset h)
          rw [or_iff_left hvs, or_iff_left hne, ihparts hchildren he, and_iff_left hlaternot]
      · have hpre : Node.expr e ∉ n.preorder := fun h => not_mem_of_nodup hids h he
        have hnot : Node.expr e ∉ n.children.flatMap Node.preorder := fun h =>
          hpre (n.preorder_eq ▸ List.mem_cons_of_mem _ h)
        have hne : Node.expr e ∉ noted n := fun h =>
          hpre (List.mem_singleton.mp ((noted_sublist n).subset h) ▸ Node.mem_preorder_self _)
        have hus : Node.expr e ∉ us := fun h => hnot (hparts.subperm.subset h)
        rw [or_iff_right (not_or.mpr ⟨hus, hne⟩), ihlater hids' he,
          and_iff_right fun h : Passed a _ _ _ _ => hnot h.mem]

end

end Infer

namespace Analysis

theorem isSome_iff_not_passed (m : Module) {e : Expr}
    (h : .expr e ∈ (Node.module (ofModule m).module).preorder) :
    ((ofModule m).typing.exprType? e.info.id).isSome ↔
      ¬ Infer.Passed (ofModule m) (Node.module (ofModule m).module).children [] (some .nothing)
        (.expr e) := by
  obtain ⟨_, vs, htyped, hknown⟩ := exists_typed m
  have hids : (Node.idsOf (Node.module (ofModule m).module).children).Nodup := by
    have hall := ids_nodup m
    rw [Node.ids_eq] at hall
    exact (List.nodup_cons.mp hall).2
  have hin : Node.expr e ∈ (Node.module (ofModule m).module).children.flatMap Node.preorder := by
    rw [Node.preorder_eq] at h
    exact (List.mem_cons.mp h).resolve_left nofun
  rw [← hknown e h]
  exact htyped.mem_iff (exprs_nodup m) hids hin

theorem isSome_of_part (m : Module) {e part : Expr}
    (h : .expr e ∈ (Node.module (ofModule m).module).preorder) (hpart : .expr part ∈ (Node.expr e).preorder)
    (hknown : ((ofModule m).typing.exprType? part.info.id).isSome) :
    ((ofModule m).typing.exprType? e.info.id).isSome := by
  rw [isSome_iff_not_passed m (Node.mem_preorder_trans hpart h)] at hknown
  rw [isSome_iff_not_passed m h]
  intro hpassed
  refine hknown (hpassed.imp ?_ ?_)
  · rintro ⟨c, hc, he⟩
    exact ⟨c, hc, Node.mem_preorder_trans hpart he⟩
  · rintro ⟨n, hn, c, hc, he⟩
    exact ⟨n, hn, c, hc, Node.mem_preorder_trans hpart he⟩

/-- An expression has no type exactly if it stands in a part of a node that is passed over. -/
theorem exprType?_eq_none_iff (m : Module) {e : Expr}
    (h : .expr e ∈ (Node.module (ofModule m).module).preorder) :
    (ofModule m).typing.exprType? e.info.id = none ↔
      ∃ n ∈ (Node.module (ofModule m).module).preorder, ∃ c, (ofModule m).Skips n c ∧
        .expr e ∈ c.preorder := by
  rw [← Option.not_isSome_iff_eq_none, isSome_iff_not_passed m h, not_not, Infer.Passed,
    Infer.passedOver_of_asksAll List.not_mem_nil (Option.some_ne_none _), Node.preorder_eq]
  constructor
  · rintro (⟨c, hc, -⟩ | ⟨n, hn, hskips⟩)
    · cases hc
    · exact ⟨n, List.mem_cons_of_mem _ hn, hskips⟩
  · rintro ⟨n, hn, c, hskips, hc⟩
    rcases List.mem_cons.mp hn with rfl | hn
    · cases hskips
    · exact .inr ⟨n, hn, c, hskips, hc⟩

theorem exprType?_argument_of_isSome :
    let i : Info := ⟨0, {}⟩
    let e : Expr := .int ⟨8, {}⟩ 1 none
    let m : Module := ⟨i, none, [⟨i, "f",
      [⟨i, .binding i "o" false, some (.mk "Option" [.mk "u8" [] {}] {})⟩],
      .mk i [] (some (.methodCall i (.var i "o" none) "is_some" {} [.int i 1 none])), none⟩]⟩
    (ofModule m).typing.exprType? e.info.id = none ∧
      ∃ n ∈ (Node.module (ofModule m).module).preorder, ∃ c, (ofModule m).Skips n c ∧
        .expr e ∈ c.preorder := by
  intro i e m
  have h : Node.expr e ∈ (Node.module (ofModule m).module).preorder :=
    List.mem_of_getElem? (i := 7) rfl
  have hnone : (ofModule m).typing.exprType? e.info.id = none := rfl
  exact ⟨hnone, (exprType?_eq_none_iff m h).mp hnone⟩

end Analysis

end ChainLint
