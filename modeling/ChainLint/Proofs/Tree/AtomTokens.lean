import ChainLint.Proofs.Token.Parens
import ChainLint.Proofs.Tree.Atoms
import ChainLint.Proofs.Tree.Faults

namespace ChainLint

def Terminal.isAtom (t : Terminal) : Bool := [.name, .int, .float, .string].contains t

open Tree.Build in
def Atom.IsOf (t : Token) : Atom → Prop
  | .name s => t.terminal = .name ∧ spell t = s
  | .position s => t.terminal = .int ∧ spell t = s
  | .int value suffix => t.terminal = .int ∧ Numeral.integer? t.text = some ⟨value, suffix⟩
  | .float bits suffix => t.terminal = .float ∧ Numeral.real t.text = ⟨bits, suffix⟩
  | .string value => t.terminal = .string ∧ Escape.decode (unquote t.text) = .ok value

namespace Lexer

theorem scan_int {expected : List Terminal} {cs l : List Char}
    (h : scan expected cs = some (.int, l)) : int? cs = some l := by
  simp only [scan, Option.orElse_eq_orElse, Option.orElse_eq_or, Option.or_eq_some_iff] at h
  rcases h with h | ⟨-, h | ⟨-, h | ⟨-, h | ⟨-, h⟩⟩⟩⟩
  · cases (ifExpected_eq_some h).2.1
  · obtain ⟨⟨u, l'⟩, -, he⟩ := Option.map_eq_some_iff.mp h
    obtain ⟨hc, -⟩ := Prod.mk.inj he
    rcases classify_cases expected l' with ⟨hw, -, -⟩ | ⟨hn, -⟩
    · rw [hc] at hw
      exact absurd hw (by decide)
    · cases hc.symm.trans hn
  · exact (ifExpected_eq_some h).2.2
  · cases (ifExpected_eq_some h).2.1
  · obtain ⟨u, hu, he⟩ := Option.map_eq_some_iff.mp h
    obtain ⟨rfl, -⟩ := Prod.mk.inj he
    exact absurd rfl (fixed?_isPrefix hu).2.1

end Lexer

namespace Token

open Tree Tree.Build

def IsCut (t : Token) : Prop :=
  ∃ expected rest, Lexer.scan expected (t.text ++ rest) = some (t.terminal, t.text)

variable {t : Token}

theorem IsCut.not_colon (h : t.IsCut) (ht : t.terminal = .name) : ':' ∉ t.text := by
  obtain ⟨expected, rest, h⟩ := h
  rw [ht] at h
  exact fun hc => absurd (Lexer.name?_part (Lexer.scan_name h).2 _ hc) (by decide)

theorem IsCut.name_start (h : t.IsCut) (ht : t.terminal = .name) :
    ∃ c cs, t.text = c :: cs ∧ Lexer.isNameStart c = true := by
  obtain ⟨expected, rest, h⟩ := h
  rw [ht] at h
  obtain ⟨hname, -⟩ := Lexer.name?_append.mp (Lexer.scan_name h).2
  cases htext : t.text with
  | nil =>
      rw [htext] at hname
      cases hname
  | cons c cs =>
      rw [htext, Lexer.name?, Option.ite_none_right_eq_some] at hname
      exact ⟨c, cs, rfl, hname.1⟩

theorem IsCut.int_start (h : t.IsCut) (ht : t.terminal = .int) :
    ∃ c cs, t.text = c :: cs ∧ c.isDigit = true := by
  obtain ⟨expected, rest, h⟩ := h
  rw [ht] at h
  have hint := Lexer.scan_int h
  obtain ⟨hne, -⟩ := Lexer.int?_isPrefix hint
  obtain ⟨c, cs, htext⟩ := List.exists_cons_of_ne_nil hne
  refine ⟨c, cs, htext, ?_⟩
  rw [htext, List.cons_append] at hint
  by_contra hdigit
  rw [Lexer.int?_eq_none.mpr (by simpa using hdigit)] at hint
  cases hint

theorem IsCut.member (h : t.IsCut) (ht : t.terminal = .name ∨ t.terminal = .int) :
    (memberAtom (spell t)).IsOf t := by
  rw [memberAtom, spell, String.toList_ofList]
  rcases ht with ht | ht
  · obtain ⟨c, cs, htext, hc⟩ := h.name_start ht
    have hdigit : ¬ t.text.head?.any Char.isDigit = true := by
      rw [htext]
      intro hd
      rw [Lexer.isNameStart_of_isDigit hd] at hc
      cases hc
    rw [if_neg hdigit]
    exact ⟨ht, rfl⟩
  · obtain ⟨c, cs, htext, hc⟩ := h.int_start ht
    rw [if_pos (by rw [htext]; exact hc)]
    exact ⟨ht, rfl⟩

end Token

theorem Pending.Cuts.isCut {ws : List Lexeme} {s s' : Pending} (h : s.Cuts ws s') :
    ∀ w ∈ ws, w.token.IsCut := by
  induction ws generalizing s with
  | nil => exact fun w hw => absurd hw List.not_mem_nil
  | cons w ws ih =>
      obtain ⟨rest, hone, hrest⟩ := h
      exact List.forall_mem_cons.mpr ⟨⟨_, rest, hone.scan⟩, ih hrest⟩

def atomTokens (ts : List Token) : List Token := ts.filter fun t => t.terminal.isAtom

def Says (ws : List Lexeme) (as : List Atom) : Prop :=
  (∀ w ∈ ws, w.token.IsCut) →
    (atomTokens (ws.map Lexeme.token)).Forall₂ (fun t a => a.IsOf t) as

namespace Says

variable {t : Token} {k : Terminal} {E : Expectation} {ws ws' : List Lexeme} {as bs : List Atom}

theorem nil : Says [] [] := fun _ => .nil

theorem append (h : Says ws as) (h' : Says ws' bs) : Says (ws ++ ws') (as ++ bs) := by
  intro hcut
  obtain ⟨hws, hws'⟩ := List.forall_mem_append.mp hcut
  rw [atomTokens, List.map_append, List.filter_append]
  exact List.rel_append (h hws) (h' hws')

theorem skip (ht : t.terminal = k) (hk : k.isAtom = false) (h : Says ws as) :
    Says (⟨t, E⟩ :: ws) as := by
  intro hcut
  rw [atomTokens, List.map_cons, List.filter_cons_of_neg (by rw [ht, hk]; decide)]
  exact h (List.forall_mem_cons.mp hcut).2

theorem cons {a : Atom} (ht : t.terminal = k) (hk : k.isAtom = true) (ha : t.IsCut → a.IsOf t)
    (h : Says ws as) : Says (⟨t, E⟩ :: ws) (a :: as) := by
  intro hcut
  obtain ⟨hone, hrest⟩ := List.forall_mem_cons.mp hcut
  rw [atomTokens, List.map_cons, List.filter_cons_of_pos (by rw [ht, hk])]
  exact .cons (ha hone) (h hrest)

theorem name (ht : t.terminal = .name) (h : Says ws as) :
    Says (⟨t, E⟩ :: ws) (.name (Tree.Build.spell t) :: as) :=
  cons ht rfl (fun _ => ⟨ht, rfl⟩) h

theorem after (h : Says ws []) (h' : Says ws' bs) : Says (ws ++ ws') bs := h.append h'

theorem assoc {cs : List Atom} (h : Says ws (as ++ (bs ++ cs))) : Says ws (as ++ bs ++ cs) := by
  rwa [List.append_assoc]

theorem close (h : Says ws as) (ht : t.terminal = k) (hk : k.isAtom = false) :
    Says (ws ++ [⟨t, E⟩]) as := by
  have := h.append (skip (E := E) ht hk nil)
  rwa [List.append_nil] at this

end Says

namespace Surface

open Tree Tree.Build

theorem pathAtoms_eq {ts : List Token} (h : ∀ t ∈ ts, ':' ∉ t.text) (hne : ts ≠ []) :
    pathAtoms (pathName ts) = ts.map fun t => .name (spell t) := by
  have hname : (pathName ts).toList = [':', ':'].intercalate (ts.map Token.text) := by
    rw [pathName, String.toList_intercalate, List.map_map]
    exact congrArg _ (List.map_congr_left fun t _ => String.toList_ofList)
  have hsegments : segments ([':', ':'].intercalate (ts.map Token.text)) = ts.map Token.text :=
    segments_intercalate (List.forall_mem_map.mpr h) (by simpa using hne)
  rw [pathAtoms, hname, hsegments, List.map_map]
  rfl

theorem SpellsSegments.names {ts : List Token} {ws : List Lexeme} (h : SpellsSegments ts ws) :
    ∀ t ∈ ts, t.terminal = .name ∧ t ∈ ws.map Lexeme.token := by
  induction h with
  | nil => exact fun t ht => absurd ht List.not_mem_nil
  | cons hsep ht _ ih =>
      refine List.forall_mem_cons.mpr ⟨⟨ht, by simp⟩, fun u hu => ?_⟩
      obtain ⟨hname, hmem⟩ := ih u hu
      exact ⟨hname, List.mem_cons_of_mem _ (List.mem_cons_of_mem _ hmem)⟩

theorem SpellsSegments.toSays {ts : List Token} {ws : List Lexeme} (h : SpellsSegments ts ws) :
    Says ws (ts.map fun t => .name (spell t)) := by
  induction h with
  | nil => exact .nil
  | cons hsep ht _ ih => exact .skip hsep rfl (.name ht ih)

section

variable {t : Token} {ts : List Token} {E : Expectation} {ws : List Lexeme}
  (ht : t.terminal = .name) (hts : SpellsSegments ts ws)

include ht hts

theorem pathAtoms_of_segments (hcut : ∀ w ∈ (⟨t, E⟩ : Lexeme) :: ws, w.token.IsCut) :
    pathAtoms (pathName (t :: ts)) = (t :: ts).map fun u => .name (spell u) := by
  obtain ⟨hone, hrest⟩ := List.forall_mem_cons.mp hcut
  refine pathAtoms_eq (List.forall_mem_cons.mpr ⟨hone.not_colon ht, fun u hu => ?_⟩)
    (List.cons_ne_nil _ _)
  obtain ⟨hname, hmem⟩ := hts.names u hu
  obtain ⟨w, hw, rfl⟩ := List.mem_map.mp hmem
  exact (hrest w hw).not_colon hname

theorem says_path : Says (⟨t, E⟩ :: ws) (pathAtoms (pathName (t :: ts))) := by
  intro hcut
  rw [pathAtoms_of_segments ht hts hcut]
  exact Says.name ht hts.toSays hcut

theorem pathName_not_mem (hcut : ∀ w ∈ (⟨t, E⟩ : Lexeme) :: ws, w.token.IsCut) :
    pathName (t :: ts) ∉ ["&", "&mut", "[]", "()"] := by
  obtain ⟨c, cs, htext, hc⟩ := (List.forall_mem_cons.mp hcut).1.name_start ht
  have hatoms := pathAtoms_of_segments ht hts hcut
  intro hmem
  have hstart : ∀ s ∈ ["&", "&mut", "[]", "()"], pathAtoms s = [.name s] ∧
      (s.toList.head?.any Lexer.isNameStart) = false := by
    decide
  obtain ⟨hone, hsign⟩ := hstart _ hmem
  rw [hone, List.map_cons] at hatoms
  have hspell := congrArg String.toList (Atom.name.inj (List.cons.inj hatoms).1)
  rw [hspell, spell, String.toList_ofList, htext] at hsign
  exact absurd (hc.symm.trans hsign) (by decide)

end

variable {file : Option String} {ws : List Lexeme}

def SaysPat (file : Option String) (ws : List Lexeme) : PatPhrase → Prop
  | .one p => Says ws (pattern file p).atoms
  | .elems ps _ => Says ws (patAtoms (patterns file ps))

theorem SpellsPat.toSays {p : PatPhrase} (h : SpellsPat p ws) : SaysPat file ws p := by
  induction h with
  | binding ht => exact .name ht .nil
  | mutBinding hm ht => exact .skip hm rfl (.name ht .nil)
  | wild ht => exact .skip ht rfl .nil
  | tuple ho _ ih => exact Says.skip ho rfl ih
  | elemsNil hc => exact .skip hc rfl .nil
  | elemsLast _ hc ih => exact .append ih (.skip hc rfl .nil)
  | elemsCons _ hc _ ihp ihps => exact .append ihp (.skip hc rfl ihps)

def SaysType (file : Option String) (ws : List Lexeme) : TypePhrase → Prop
  | .one t => Says ws (typeExpr file t).atoms
  | .args ts _ | .elems ts _ => Says ws (typeAtoms (typeExprs file ts))

theorem says_named {t : Token} {ts : List Token} {args : List Tree.TypeExpr} {E : Expectation}
    {ws ws' : List Lexeme} {s : Span} (ht : t.terminal = .name) (hts : SpellsSegments ts ws)
    (hargs : Says ws' (typeAtoms args)) :
    Says (⟨t, E⟩ :: (ws ++ ws')) (Tree.TypeExpr.mk (pathName (t :: ts)) args s).atoms := by
  intro hcut
  rw [← List.cons_append] at hcut
  rw [Tree.TypeExpr.atoms, if_neg (pathName_not_mem ht hts (List.forall_mem_append.mp hcut).1)]
  exact (says_path ht hts).append hargs hcut

theorem says_sign {head : String} {args : List Tree.TypeExpr} {s : Span}
    (hhead : head ∈ ["&", "&mut", "[]", "()"]) (h : Says ws (typeAtoms args)) :
    Says ws (Tree.TypeExpr.mk head args s).atoms := by
  rwa [Tree.TypeExpr.atoms, if_pos hhead]

theorem typeAtoms_singleton (t : Tree.TypeExpr) : typeAtoms [t] = t.atoms := List.append_nil _

theorem SpellsType.toSays {p : TypePhrase} (h : SpellsType p ws) : SaysType file ws p := by
  induction h with
  | @name t ts ws ht hts =>
      have hsays : Says (⟨t, .afterTypeName⟩ :: (ws ++ [])) (Tree.TypeExpr.mk (pathName (t :: ts)) []
          (spanOf file ⟨t.start, Parser.lastStop t ts⟩)).atoms := says_named ht hts .nil
      rwa [List.append_nil] at hsays
  | applied ht hts hl _ ih => exact says_named ht hts (.skip hl rfl ih)
  | ref ha _ ih => exact .skip ha rfl (says_sign (by decide) (typeAtoms_singleton _ ▸ ih))
  | mutRef ha hm _ ih =>
      exact .skip ha rfl (.skip hm rfl (says_sign (by decide) (typeAtoms_singleton _ ▸ ih)))
  | slice ho _ hc ih =>
      exact .skip ho rfl (says_sign (by decide) (typeAtoms_singleton _ ▸ Says.close ih hc rfl))
  | unit ho hc => exact .skip ho rfl (.skip hc rfl .nil)
  | tuple ho _ hc _ ihu ihus =>
      exact .skip ho rfl (says_sign (by decide) (.append ihu (.skip hc rfl ihus)))
  | argsLast _ hc ih | elemsLast _ hc ih => exact .append ih (.skip hc rfl .nil)
  | argsCons _ hc _ ihu ihus | elemsCons _ hc _ ihu ihus => exact .append ihu (.skip hc rfl ihus)
  | elemsNil hc => exact .skip hc rfl .nil

theorem declaredAtoms_some (t : Tree.TypeExpr) : declaredAtoms (some t) = t.atoms :=
  List.flatMap_singleton ..

theorem SpellsDeclared.toSays {o : Option TypeExpr} (h : SpellsDeclared o ws) :
    Says ws (declaredAtoms (o.map (typeExpr file))) := by
  cases h with
  | none => exact .nil
  | @some _ u _ hc hu => exact declaredAtoms_some (typeExpr file u) ▸ .skip hc rfl hu.toSays

theorem SpellsParam.toSays {p : Param} (h : SpellsParam p ws) : Says ws (param file p).atoms := by
  cases h with
  | mk hp ho => exact .append hp.toSays ho.toSays

theorem SpellsBars.toSays {ps : List Param} (h : SpellsBars ps ws) :
    Says ws ((ps.map (param file)).flatMap Tree.Param.atoms) := by
  induction h with
  | last hp hc => exact .append hp.toSays (.skip hc rfl .nil)
  | cons hp hc _ ih => exact .append hp.toSays (.skip hc rfl ih)

theorem SpellsHead.toSays {ps : List Param} (h : SpellsHead ps ws) :
    Says ws ((ps.map (param file)).flatMap Tree.Param.atoms) := by
  cases h with
  | joined hb => exact .skip hb rfl .nil
  | empty ho hc => exact .skip ho rfl (.skip hc rfl .nil)
  | params ho hps => exact .skip ho rfl hps.toSays

theorem SpellsMove.toSays {isMove : Bool} (h : SpellsMove isMove ws) : Says ws [] := by
  cases h with
  | none => exact .nil
  | some hw => exact .skip hw rfl .nil

theorem SpellsPrefix.toSays {op : UnaryOp} (h : SpellsPrefix op ws) : Says ws [] := by
  cases h with
  | neg ht | not ht | deref ht | ref ht => exact .skip ht rfl .nil
  | refMut ht hm => exact .skip ht rfl (.skip hm rfl .nil)

theorem operator_isAtom {l : Level} {t : Terminal} {op : BinaryOp}
    (h : l.operator? t = some op) : t.isAtom = false := by
  cases t <;> first | rfl | (cases l <;> cases h)

theorem stmts_of_empty (file : Option String) {is : List Item} (h : moreItems is = false) :
    Builds.stmts is = true ∧ Plain.stmts file is = ([], none) := by
  apply moreItems_induction (P := fun is => Builds.stmts is = true ∧ Plain.stmts file is = ([], none))
    h ⟨rfl, rfl⟩
  intro x is ih
  rwa [Builds.stmts, Plain.stmts]

def SaysPhrase (file : Option String) (ws : List Lexeme) : Phrase → Prop
  | .expr e => Builds.expr e = true → Says ws (Plain.expr file e).atoms
  | .args close es _ => close.isAtom = false → Builds.exprs es = true →
      Says ws (exprAtoms (Plain.exprs file es))
  | .block b => Builds.block b = true → Says ws (Plain.block file b).atoms
  | .items is => Builds.stmts is = true →
      Says ws (stmtAtoms (Plain.stmts file is).1 ++ optionAtoms (Plain.stmts file is).2)
  | .letItem (.letItem p declared value _) => Builds.optional value = true →
      Says ws ((pattern file p).atoms ++ (declaredAtoms (declared.map (typeExpr file)) ++
        optionAtoms (Plain.optional file value)))
  | .letItem _ => False
  | .init o => Builds.optional o = true → Says ws (optionAtoms (Plain.optional file o))

theorem Spells.toSays {p : Phrase} (h : Spells p ws) : SaysPhrase file ws p := by
  induction h with
  | int ht =>
      intro hb
      obtain ⟨n, hn⟩ := Option.isSome_iff_exists.mp hb
      rw [Plain.expr, Plain.intExpr, hn]
      exact .cons ht rfl (fun _ => ⟨ht, hn⟩) .nil
  | float ht => exact fun _ => .cons ht rfl (fun _ => ⟨ht, rfl⟩) .nil
  | string ht =>
      intro hb
      rw [Plain.expr, Plain.stringExpr]
      rw [Builds.expr] at hb
      split
      · next hv =>
          rw [hv] at hb
          cases hb
      · next v hv => exact .cons ht rfl (fun _ => ⟨ht, hv⟩) .nil
  | true ht | false ht | brk ht | cont ht | retNone ht => exact fun _ => .skip ht rfl .nil
  | path ht hts => exact fun _ => says_path ht hts
  | bracketMacro ht hbang ho _ ih | macroCall ht hbang ho _ ih =>
      exact fun hb => .name ht (.skip hbang rfl (.skip ho rfl (ih rfl hb)))
  | paren ho _ hc ih => exact fun hb => .skip ho rfl (.close (ih hb) hc rfl)
  | tuple ho _ hc _ ihe ihes =>
      intro hb
      obtain ⟨he, hes⟩ := Bool.and_eq_true_iff.mp hb
      exact .skip ho rfl (.append (ihe he) (.skip hc rfl (ihes rfl hes)))
  | array ho _ ih => exact fun hb => .skip ho rfl (ih rfl hb)
  | block _ ih => exact fun hb => ih hb
  | cond hw _ _ _ ihtest ihyes =>
      intro hb
      obtain ⟨htest, hyes⟩ := Bool.and_eq_true_iff.mp hb
      obtain ⟨hyes, -⟩ := Bool.and_eq_true_iff.mp hyes
      refine .skip hw rfl (.append (ihtest htest) ?_)
      exact (List.append_nil _).symm ▸ ihyes hyes
  | condElse hw _ _ _ ho _ ihtest ihyes ihno =>
      intro hb
      obtain ⟨htest, hyes⟩ := Bool.and_eq_true_iff.mp hb
      obtain ⟨hyes, hno⟩ := Bool.and_eq_true_iff.mp hyes
      exact .skip hw rfl (.append (ihtest htest) (.append (ihyes hyes) (.skip ho rfl (ihno hno))))
  | condElseIf hw _ _ _ ho hw' _ ihtest ihyes ihno =>
      intro hb
      obtain ⟨htest, hyes⟩ := Bool.and_eq_true_iff.mp hb
      obtain ⟨hyes, hno⟩ := Bool.and_eq_true_iff.mp hyes
      exact .skip hw rfl (.append (ihtest htest) (.append (ihyes hyes) (.skip ho rfl (ihno hno))))
  | whileLoop hw _ _ _ ihtest ihbody =>
      intro hb
      obtain ⟨htest, hbody⟩ := Bool.and_eq_true_iff.mp hb
      exact .skip hw rfl (.append (ihtest htest) (ihbody hbody))
  | loop hw _ ih => exact fun hb => .skip hw rfl (ih hb)
  | forLoop hw hp hi _ _ _ ihiter ihbody =>
      intro hb
      obtain ⟨hiter, hbody⟩ := Bool.and_eq_true_iff.mp hb
      exact .skip hw rfl (.append hp.toSays (.skip hi rfl (.append (ihiter hiter) (ihbody hbody))))
  | ret hw _ ih => exact fun hb => .skip hw rfl (ih hb)
  | unary hop _ _ ih => exact fun hb => .after hop.toSays (ih hb)
  | binary hop _ _ _ _ _ ihl ihr =>
      intro hb
      obtain ⟨hl, hr⟩ := Bool.and_eq_true_iff.mp hb
      exact .append (ihl hl) (.skip rfl (operator_isAtom hop) (ihr hr))
  | rangeAll hd => exact fun _ => .skip hd rfl .nil
  | rangeTo hd _ _ ih =>
      intro hb
      exact .skip hd rfl (ih (Bool.and_eq_true_iff.mp hb).2)
  | rangeFrom hd _ _ _ ih =>
      intro hb
      exact .append (ih (Bool.and_eq_true_iff.mp hb).1) (.skip hd rfl .nil)
  | range hd _ _ _ _ _ ihl ihu =>
      intro hb
      obtain ⟨hl, hu⟩ := Bool.and_eq_true_iff.mp hb
      exact .append (ihl hl) (.skip hd rfl (ihu hu))
  | call _ _ _ ho _ ihf ihes =>
      intro hb
      obtain ⟨hf, hes⟩ := Bool.and_eq_true_iff.mp hb
      exact .append (ihf hf) (.skip ho rfl (ihes rfl hes))
  | methodCall _ _ _ hd hn ho _ ihf ihes =>
      intro hb
      obtain ⟨hf, hes⟩ := Bool.and_eq_true_iff.mp hb
      exact .append (ihf hf) (.skip hd rfl (.name hn (.skip ho rfl (ihes rfl hes))))
  | field _ _ _ hd hn ih =>
      intro hb
      refine .append (ih hb) (.skip hd rfl (.cons rfl ?_ (fun hcut => hcut.member hn) .nil))
      rcases hn with hn | hn <;> rw [hn] <;> rfl
  | index _ _ _ ho _ hc ihf ihp =>
      intro hb
      obtain ⟨hf, hp⟩ := Bool.and_eq_true_iff.mp hb
      exact .append (ihf hf) (.skip ho rfl (.close (ihp hp) hc rfl))
  | closure hm hh _ ih => exact fun hb => .after hm.toSays (.append hh.toSays (ih hb))
  | argsNil hc => exact fun hclose _ => .skip hc hclose .nil
  | argsLast _ hc ih =>
      intro hclose hb
      exact .append (ih (Bool.and_eq_true_iff.mp hb).1) (.skip hc hclose .nil)
  | argsCons _ hc _ ihe ihes =>
      intro hclose hb
      obtain ⟨he, hes⟩ := Bool.and_eq_true_iff.mp hb
      exact .append (ihe he) (.skip hc rfl (ihes hclose hes))
  | mkBlock ho _ hc ih => exact fun hb => .skip ho rfl (.close (ih hb) hc rfl)
  | itemsNil => exact fun _ => .nil
  | itemsEmpty hs _ ih => exact fun hb => .skip hs rfl (ih hb)
  | itemsLet hi _ ihi ihis =>
      intro hb
      cases hi
      obtain ⟨hvalue, hrest⟩ := Bool.and_eq_true_iff.mp hb
      exact .assoc (.append (ihi hvalue) (ihis hrest))
  | itemsSemi _ hs _ ihe ihis =>
      intro hb
      obtain ⟨he, hrest⟩ := Bool.and_eq_true_iff.mp hb
      exact .assoc (.append (ihe he) (.skip hs rfl (ihis hrest)))
  | @itemsExpr e is _ ws' _ _ _ ihe ihis =>
      intro hb
      obtain ⟨he, hrest⟩ := Bool.and_eq_true_iff.mp hb
      rw [Plain.stmts, isBlockLike_plain]
      split at hrest
      · next hmore =>
          rw [if_pos hmore]
          exact .assoc (.append (ihe he) (ihis hrest))
      · next hmore =>
          -- Only semicolons come after the value of a block.
          obtain ⟨hbuilds, hnone⟩ := stmts_of_empty file (by simpa using hrest)
          have htail : Says ws' [] := by
            have := ihis hbuilds
            rwa [hnone] at this
          rw [if_neg hmore]
          have := (ihe he).append htail
          rwa [List.append_nil] at this
  | letItem hw hp hd _ hs ih =>
      intro hb
      refine .skip hw rfl (.append hp.toSays (.append hd.toSays ?_))
      exact .close (ih hb) hs rfl
  | initNone => exact fun _ => .nil
  | init hq _ ih => exact fun hb => .skip hq rfl (ih hb)

theorem SpellsParams.toSays {ps : List Param} (h : SpellsParams ps ws) :
    Says ws ((ps.map (param file)).flatMap Tree.Param.atoms) := by
  induction h with
  | nil hc => exact .skip hc rfl .nil
  | last hp _ hc => exact .append hp.toSays (.skip hc rfl .nil)
  | cons hp _ hc _ ih => exact .append hp.toSays (.skip hc rfl ih)

theorem SpellsResult.toSays {o : Option TypeExpr} (h : SpellsResult o ws) :
    Says ws (declaredAtoms (o.map (typeExpr file))) := by
  cases h with
  | none => exact .nil
  | @some _ u _ ha hu => exact declaredAtoms_some (typeExpr file u) ▸ .skip ha rfl hu.toSays

theorem SpellsFunction.toSays {f : Function} (h : SpellsFunction f ws)
    (hb : Builds.block f.body = true) : Says ws (Plain.function file f).atoms := by
  cases h with
  | mk hw hn ho hps hr hbody =>
      exact .skip hw rfl (.name hn (.skip ho rfl (.append hps.toSays (.append hr.toSays (hbody.toSays hb)))))

theorem SpellsFunctions.toSays {fs : List Function} (h : SpellsFunctions fs ws)
    (hb : (fs.all fun f => Builds.block f.body) = true) :
    Says ws ((fs.map (Plain.function file)).flatMap Tree.Function.atoms) := by
  induction h with
  | nil => exact .nil
  | cons hf _ ih =>
      rw [List.all_cons, Bool.and_eq_true] at hb
      exact .append (hf.toSays hb.1) (ih hb.2)

end Surface

namespace Tree.Module

variable {file : Option String} {text : List Char} {x : Expansions} {m : Module}

/-- A tree that is read from a text has the names and literals of the text, each once and in their
order. -/
theorem atoms_ofText (h : (ofText file text x).1 = .ok m) :
    ∃ sm tokens, Surface.parse text = .ok (sm, tokens) ∧
      (atomTokens tokens).Forall₂ (fun t a => a.IsOf t) m.atoms := by
  obtain ⟨sm, tokens, x', hparse, hgives⟩ := ofText_eq_ok.mp h
  obtain ⟨ws, s, hcuts, -, hspells, rfl⟩ := Surface.parse_tokens hparse
  obtain ⟨fs, hfs, rfl⟩ := Build.gives_module.mp hgives
  obtain ⟨hbuilds, hfunctions⟩ := (Build.meets_functions file sm.functions _).2 _ _ hfs
  have hatoms : fs.flatMap Function.atoms =
      (sm.functions.map (Plain.function file)).flatMap Function.atoms := by
    rw [← hfunctions, List.flatMap_map]
    exact List.flatMap_congr fun f _ => (f.atoms_erase Span.inRoot).symm
  refine ⟨sm, _, hparse, ?_⟩
  rw [atoms, hatoms]
  exact hspells.toSays hbuilds hcuts.isCut

theorem exists_atoms_ofText :
    let text := "fn f(t: a::B<i32>) \x7b t.0.g(\"x\", 1_0u8, 2.5) \x7d".toList
    ∃ m, (ofText none text .empty).1 = .ok m ∧
      m.atoms = [.name "f", .name "t", .name "a", .name "B", .name "i32", .name "t", .position "0",
        .name "g", .string ['x'], .int 10 (some "u8"), .float 0x4004000000000000 none] ∧
      ∃ sm tokens, Surface.parse text = .ok (sm, tokens) ∧
        (atomTokens tokens).Forall₂ (fun t a => a.IsOf t) m.atoms := by
  intro text
  have hread : (ofText none text .empty).1.toOption.map atoms =
      some [.name "f", .name "t", .name "a", .name "B", .name "i32", .name "t", .position "0",
        .name "g", .string ['x'], .int 10 (some "u8"), .float 0x4004000000000000 none] := by
    decide +kernel
  obtain ⟨m, hm, hatoms⟩ := Option.map_eq_some_iff.mp hread
  have hm : (ofText none text .empty).1 = .ok m := ok_of_toOption hm
  exact ⟨m, hm, hatoms, atoms_ofText hm⟩

end Tree.Module

end ChainLint
