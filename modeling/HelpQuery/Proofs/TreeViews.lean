import HelpQuery.Proofs.QuotedTexts
import HelpQuery.Proofs.Shapes
import HelpQuery.Proofs.WrittenBoosts
import HelpQuery.Query.Printed

/-!
# Tree views

The view of a tree has a line for each leaf, group and clause.  A line is indented by its depth, and
the rest of it names its kind and ends in a quoted text and a number, so it can be read whatever
stands in the text.  The depths and contents of the lines determine the tree.

    tree.viewLines above.length = ((tree.entries above).map placed).map line       (viewLines_eq)
    line x = line y → x = y                                                     (line_injective)
    t.view = t'.view → t = t'        if no name of a field holds a line feed     (view_faithful)
-/

namespace HelpQuery

/-! ## Lines -/

/-- What a line of a tree view is about. -/
inductive ViewEntry where
  | leaf (field : String) (atom : Atom) (boost : Single)
  | group
  | clause (requirement : Requirement)

namespace ViewEntry

/-- A line without its indentation. -/
def text : ViewEntry → String
  | leaf field atom boost =>
    atom.viewName ++ "(" ++ field ++ ":" ++ atom.viewText ++ ", boost=" ++ boost.text ++ ")"
  | group => "Boolean"
  | clause requirement => requirement.viewName

def isLeaf : ViewEntry → Bool
  | leaf .. => true
  | group => false
  | clause _ => false

def isGroup : ViewEntry → Bool
  | leaf .. => false
  | group => true
  | clause _ => false

def isClause : ViewEntry → Bool
  | leaf .. => false
  | group => false
  | clause _ => true

/-- An entry and its depth, the number of entries above it. -/
def placed (e : List ViewEntry × ViewEntry) : Nat × ViewEntry := (e.1.length, e.2)

/-- The line of an entry at a depth. -/
def line (e : Nat × ViewEntry) : String := Tree.viewLine e.1 e.2.text

end ViewEntry

namespace Tree

mutual

/-- The entries of a tree, each with the entries above it on its path. -/
def entries (above : List ViewEntry) : Tree → List (List ViewEntry × ViewEntry)
  | leaf field atom boost => [(above, .leaf field atom boost)]
  | boolean cs => (above, .group) :: clauseEntries (.group :: above) cs

/-- The entries of the clauses of a group. -/
def clauseEntries (above : List ViewEntry) :
    List (Clause Tree) → List (List ViewEntry × ViewEntry)
  | [] => []
  | ⟨requirement, query⟩ :: rest =>
    (above, .clause requirement) :: query.entries (.clause requirement :: above)
      ++ clauseEntries above rest

end

/-- Every entry has a line, indented by the number of entries above it. -/
theorem viewLines_eq (tree : Tree) (above : List ViewEntry) :
    tree.viewLines above.length =
      ((tree.entries above).map ViewEntry.placed).map ViewEntry.line := by
  induction tree using induction_clauses generalizing above with
  | leaf field a boost => rfl
  | boolean cs ih =>
    have hclauses : clauseViewLines above.length cs =
        ((clauseEntries (.group :: above) cs).map ViewEntry.placed).map ViewEntry.line := by
      induction cs with
      | nil => rfl
      | cons c cs ihcs =>
        obtain ⟨hc, hcs⟩ := List.forall_mem_cons.1 ih
        have hquery := hc (.clause c.requirement :: .group :: above)
        simp only [List.length_cons] at hquery
        simp [clauseViewLines, clauseEntries, ViewEntry.placed, ViewEntry.line, ViewEntry.text,
          hquery, ihcs hcs]
    rw [viewLines, entries, hclauses]
    rfl

theorem mem_clauseEntries (above : List ViewEntry) (cs : List (Clause Tree))
    (e : List ViewEntry × ViewEntry) :
    e ∈ clauseEntries above cs ↔ ∃ c ∈ cs, e = (above, .clause c.requirement) ∨
      e ∈ c.query.entries (.clause c.requirement :: above) := by
  induction cs with
  | nil => simp [clauseEntries]
  | cons c cs ih => simp [clauseEntries, ih, or_assoc]

/-- What is above an entry on its path is a group or a clause with an entry of its own. -/
theorem above_of_mem_entries {tree : Tree} {above : List ViewEntry}
    {e : List ViewEntry × ViewEntry} (h : e ∈ tree.entries above) :
    e.1 = above ∨
      ∃ a front, e.1 = a :: front ∧ a.isLeaf = false ∧ (front, a) ∈ tree.entries above := by
  induction tree using induction_clauses generalizing above with
  | leaf field a boost =>
    obtain rfl := List.mem_singleton.1 h
    exact Or.inl rfl
  | boolean cs ih =>
    rcases List.mem_cons.1 h with rfl | h
    · exact Or.inl rfl
    · obtain ⟨c, hc, rfl | h⟩ := (mem_clauseEntries _ cs e).1 h
      · exact Or.inr ⟨.group, above, rfl, rfl, List.mem_cons_self⟩
      · have hin : ∀ {e}, e = (.group :: above, .clause c.requirement) ∨
            e ∈ c.query.entries (.clause c.requirement :: .group :: above) →
            e ∈ (boolean cs).entries above := fun he =>
          List.mem_cons_of_mem _ ((mem_clauseEntries _ cs _).2 ⟨c, hc, he⟩)
        rcases ih c hc h with hpath | ⟨a, front, hpath, ha, hentry⟩
        · exact Or.inr ⟨.clause c.requirement, .group :: above, hpath, rfl, hin (Or.inl rfl)⟩
        · exact Or.inr ⟨a, front, hpath, ha, hin (Or.inr hentry)⟩

theorem mem_leaves_of_mem_entries {tree : Tree} {above : List ViewEntry}
    {e : List ViewEntry × ViewEntry} (h : e ∈ tree.entries above) {field : String} {a : Atom}
    {boost : Single} (hleaf : e.2 = .leaf field a boost) : (field, a) ∈ tree.leaves := by
  induction tree using induction_clauses generalizing above with
  | leaf field' a' boost' =>
    obtain rfl := List.mem_singleton.1 h
    obtain ⟨rfl, rfl, -⟩ := ViewEntry.leaf.inj hleaf
    exact List.mem_singleton.2 rfl
  | boolean cs ih =>
    rcases List.mem_cons.1 h with rfl | h
    · cases hleaf
    · obtain ⟨c, hc, rfl | h⟩ := (mem_clauseEntries _ cs e).1 h
      · cases hleaf
      · exact (mem_clauseLeaves cs _).2 ⟨c, hc, ih c hc h⟩

/-- There is an entry for each leaf, for each group and for each clause of a group. -/
theorem countP_entries (tree : Tree) (above : List ViewEntry) :
    (tree.entries above).countP (·.2.isLeaf) = tree.leafCount ∧
      (tree.entries above).countP (·.2.isGroup) = tree.groups.length ∧
      (tree.entries above).countP (·.2.isClause) = tree.groups.flatten.length := by
  induction tree using induction_clauses generalizing above with
  | leaf field a boost => exact ⟨rfl, rfl, rfl⟩
  | boolean cs ih =>
    have hclauses : ∀ above,
        (clauseEntries above cs).countP (·.2.isLeaf) = leafCountOf cs ∧
        (clauseEntries above cs).countP (·.2.isGroup) = (clauseGroups cs).length ∧
        (clauseEntries above cs).countP (·.2.isClause) =
          cs.length + (clauseGroups cs).flatten.length := by
      intro above
      induction cs with
      | nil => exact ⟨rfl, rfl, rfl⟩
      | cons c cs ihcs =>
        obtain ⟨hc, hcs⟩ := List.forall_mem_cons.1 ih
        obtain ⟨hleaf, hgroup, hclause⟩ := hc (.clause c.requirement :: above)
        obtain ⟨hleaf', hgroup', hclause'⟩ := ihcs hcs
        simp only [clauseEntries, leafCountOf, clauseGroups, List.cons_append, List.countP_cons,
          List.countP_append, List.flatten_append, List.length_append, List.length_cons, hleaf,
          hleaf', hgroup, hgroup', hclause, hclause']
        refine ⟨rfl, rfl, ?_⟩
        show _ + _ + 1 = _
        omega
    obtain ⟨hleaf, hgroup, hclause⟩ := hclauses (.group :: above)
    simp only [entries, leafCount, groups, List.countP_cons, List.flatten_cons, List.length_append,
      List.length_cons, hleaf, hgroup, hclause]
    exact ⟨rfl, rfl, rfl⟩

end Tree

/-! ## Reading a line -/

theorem Atom.viewName_mem (a : Atom) : a.viewName ∈ ["Term", "Wildcard", "Phrase"] := by
  cases a <;> simp [viewName]

theorem Atom.parenthesis_not_mem_viewName (a : Atom) : '(' ∉ a.viewName.toList := by
  have hnames : ∀ name ∈ ["Term", "Wildcard", "Phrase"], '(' ∉ name.toList := by decide
  exact hnames a.viewName a.viewName_mem

/-- The last text or list of texts on a line is found from its end. -/
theorem Atom.last_viewText_inj {a b : Atom} {front front' : List Char}
    (hname : a.viewName = b.viewName)
    (h : front ++ ':' :: a.viewText.toList = front' ++ ':' :: b.viewText.toList) :
    front = front' ∧ a = b := by
  cases a with
  | term text =>
    cases b with
    | term text' =>
      obtain ⟨hfront, -, rfl⟩ := Text.last_quote_inj (by decide) (by decide) h
      exact ⟨hfront, rfl⟩
    | wildcard pattern => simp [viewName] at hname
    | phrase terms => simp [viewName] at hname
  | wildcard pattern =>
    cases b with
    | term text => simp [viewName] at hname
    | wildcard pattern' =>
      obtain ⟨hfront, -, rfl⟩ := Text.last_quote_inj (by decide) (by decide) h
      exact ⟨hfront, rfl⟩
    | phrase terms => simp [viewName] at hname
  | phrase terms =>
    cases b with
    | term text => simp [viewName] at hname
    | wildcard pattern => simp [viewName] at hname
    | phrase terms' =>
      simp only [viewText, Text.toList_quoteList, ← List.append_assoc] at h
      obtain ⟨hfront, rfl⟩ := Text.last_openList_inj (List.append_cancel_right h)
      exact ⟨hfront, rfl⟩

namespace ViewEntry

theorem toList_text_leaf (field : String) (a : Atom) (boost : Single) :
    (text (.leaf field a boost)).toList = a.viewName.toList ++ '(' ::
      ((field.toList ++ ':' :: a.viewText.toList ++ ", boost".toList) ++ '=' :: boost.text.toList
        ++ [')']) := by
  simp [text]

theorem text_leaf_inj {field field' : String} {a a' : Atom} {boost boost' : Single}
    (h : text (.leaf field a boost) = text (.leaf field' a' boost')) :
    field = field' ∧ a = a' ∧ boost = boost' := by
  have hchars := congrArg String.toList h
  rw [toList_text_leaf, toList_text_leaf] at hchars
  obtain ⟨hname, hrest⟩ :=
    first_inj a.parenthesis_not_mem_viewName a'.parenthesis_not_mem_viewName hchars
  have hequals : ∀ x : Single, '=' ∉ x.text.toList := fun x =>
    x.not_mem_text (by decide) (by decide)
  obtain ⟨hfront, hboost⟩ :=
    last_inj (hequals boost) (hequals boost') (List.append_cancel_right hrest)
  obtain ⟨hfield, rfl⟩ :=
    Atom.last_viewText_inj (String.toList_inj.1 hname) (List.append_cancel_right hfront)
  exact ⟨String.toList_inj.1 hfield, rfl, Single.text_inj (String.toList_inj.1 hboost)⟩

/-- Only leaves have a parenthesis on their lines. -/
theorem isLeaf_of_mem {e : ViewEntry} (h : '(' ∈ e.text.toList) : e.isLeaf = true := by
  cases e with
  | leaf field a boost => rfl
  | group => exact absurd h (by decide)
  | clause requirement => cases requirement <;> exact absurd h (by decide)

theorem mem_text_leaf (field : String) (a : Atom) (boost : Single) :
    '(' ∈ (text (.leaf field a boost)).toList := by
  rw [toList_text_leaf]
  simp

theorem text_inj {e e' : ViewEntry} (h : e.text = e'.text) : e = e' := by
  have hleaf : ∀ {field a boost e}, text (.leaf field a boost) = text e → e.isLeaf = true :=
    fun h => isLeaf_of_mem (h ▸ mem_text_leaf _ _ _)
  have hgroup : ∀ requirement, text .group ≠ text (.clause requirement) := by
    intro requirement
    cases requirement <;> decide
  cases e with
  | leaf field a boost =>
    cases e' with
    | leaf field' a' boost' =>
      obtain ⟨rfl, rfl, rfl⟩ := text_leaf_inj h
      rfl
    | group => cases hleaf h
    | clause requirement => cases hleaf h
  | group =>
    cases e' with
    | leaf field' a' boost' => cases hleaf h.symm
    | group => rfl
    | clause requirement => exact absurd h (hgroup requirement)
  | clause requirement =>
    cases e' with
    | leaf field' a' boost' => cases hleaf h.symm
    | group => exact absurd h.symm (hgroup requirement)
    | clause requirement' =>
      have hnames : ∀ r r' : Requirement, r.viewName = r'.viewName → r = r' := by
        intro r r'
        cases r <;> cases r' <;> decide
      rw [hnames requirement requirement' h]

/-- The text of an entry starts with its name. -/
theorem text_eq_cons (e : ViewEntry) : ∃ c cs, e.text.toList = c :: cs ∧ c ≠ ' ' := by
  have hnames : ∀ name ∈ ["Term", "Wildcard", "Phrase", "Boolean"],
      name.toList.head?.any (· != ' ') = true := by decide
  have hmarks : ∀ requirement : Requirement,
      requirement.viewName.toList.head?.any (· != ' ') = true := by
    intro requirement
    cases requirement <;> decide
  have hhead : ∃ name rest, e.text.toList = name ++ rest ∧ name.head?.any (· != ' ') = true := by
    cases e with
    | leaf field a boost =>
      have hname : a.viewName ∈ ["Term", "Wildcard", "Phrase", "Boolean"] :=
        List.mem_append_left ["Boolean"] a.viewName_mem
      exact ⟨_, _, toList_text_leaf field a boost, hnames _ hname⟩
    | group => exact ⟨_, [], (List.append_nil _).symm, hnames "Boolean" (by simp)⟩
    | clause requirement => exact ⟨_, [], (List.append_nil _).symm, hmarks requirement⟩
  obtain ⟨name, rest, htext, hname⟩ := hhead
  cases name with
  | nil => cases hname
  | cons c cs => exact ⟨c, cs ++ rest, htext, by simpa using hname⟩

/-- A line determines its depth and what it is about. -/
theorem line_injective : Function.Injective line := by
  rintro ⟨d, e⟩ ⟨d', e'⟩ h
  have hspaces : ∀ x : Nat × ViewEntry, (line x).toList.takeWhile (· == ' ') =
      List.replicate (2 * x.1) ' ' := by
    intro x
    obtain ⟨c, cs, htext, hc⟩ := x.2.text_eq_cons
    have hblank : ∀ y ∈ List.replicate (2 * x.1) ' ', (y == ' ') = true := fun y hy =>
      beq_iff_eq.2 (List.eq_of_mem_replicate hy)
    rw [line, Tree.viewLine, String.toList_append, String.toList_ofList, htext,
      List.takeWhile_append_of_pos hblank, List.takeWhile_cons_of_neg (by simpa using hc),
      List.append_nil]
  have hlength : 2 * d = 2 * d' := by
    have hsame := hspaces (d, e)
    rw [h, hspaces] at hsame
    simpa using (congrArg List.length hsame).symm
  obtain rfl : d = d' := by omega
  have htext := congrArg String.toList h
  simp only [line, Tree.viewLine, String.toList_append, String.toList_ofList] at htext
  rw [text_inj (String.toList_inj.1 (List.append_cancel_left htext))]

end ViewEntry

/-! ## Reading depths -/

/-- The list is empty or starts at a smaller depth. -/
def Shallower (depth : Nat) (rest : List (Nat × ViewEntry)) : Prop :=
  ∀ e ∈ rest.head?, e.1 < depth

namespace Tree

/-- The placed entries of a tree determine it, and what stands behind them at a smaller depth. -/
def Readable (tree : Tree) : Prop :=
  ∀ {d : Nat} {above above' : List ViewEntry} {tree' : Tree} {rest rest' : List (Nat × ViewEntry)},
    above.length = d → above'.length = d → Shallower d rest → Shallower d rest' →
    (tree.entries above).map ViewEntry.placed ++ rest =
      (tree'.entries above').map ViewEntry.placed ++ rest' → tree = tree' ∧ rest = rest'

/-- The clauses of a group start at one depth. -/
theorem shallower_clauseEntries {d : Nat} {above : List ViewEntry} (hd : above.length = d)
    {rest : List (Nat × ViewEntry)} (h : Shallower d rest) (cs : List (Clause Tree)) :
    Shallower (d + 1) ((clauseEntries above cs).map ViewEntry.placed ++ rest) := by
  cases cs with
  | nil => exact fun e he => Nat.lt_succ_of_lt (h e he)
  | cons c cs =>
    intro e he
    obtain rfl := Option.some.inj he
    exact Nat.lt_succ_of_le (Nat.le_of_eq hd)

/-- A clause does not start what stands behind the clauses of its group. -/
theorem not_shallower_clauseEntries {d : Nat} {above : List ViewEntry} (hd : above.length = d)
    {rest : List (Nat × ViewEntry)} (c : Clause Tree) (cs : List (Clause Tree)) :
    ¬ Shallower d ((clauseEntries above (c :: cs)).map ViewEntry.placed ++ rest) := by
  intro h
  exact absurd (h _ rfl) (Nat.not_lt_of_le (Nat.le_of_eq hd.symm))

theorem clauseEntries_inj {cs : List (Clause Tree)} (ih : ∀ c ∈ cs, c.query.Readable) {d : Nat}
    {above above' : List ViewEntry} {cs' : List (Clause Tree)}
    {rest rest' : List (Nat × ViewEntry)} (hd : above.length = d) (hd' : above'.length = d)
    (hrest : Shallower d rest) (hrest' : Shallower d rest')
    (h : (clauseEntries above cs).map ViewEntry.placed ++ rest =
      (clauseEntries above' cs').map ViewEntry.placed ++ rest') : cs = cs' ∧ rest = rest' := by
  induction cs generalizing cs' with
  | nil =>
    cases cs' with
    | nil => exact ⟨rfl, h⟩
    | cons c' cs' =>
      obtain rfl : rest = _ := h
      exact absurd hrest (not_shallower_clauseEntries hd' c' cs')
  | cons c cs ihcs =>
    obtain ⟨hc, hcs⟩ := List.forall_mem_cons.1 ih
    cases cs' with
    | nil =>
      obtain rfl : rest' = _ := h.symm
      exact absurd hrest' (not_shallower_clauseEntries hd c cs)
    | cons c' cs' =>
      simp only [clauseEntries, List.map_append, List.map_cons, List.cons_append,
        List.append_assoc] at h
      obtain ⟨hclause, hqueries⟩ := List.cons.inj h
      obtain ⟨hquery, hclauses⟩ := hc (congrArg (· + 1) hd) (congrArg (· + 1) hd')
        (shallower_clauseEntries hd hrest cs) (shallower_clauseEntries hd' hrest' cs') hqueries
      obtain ⟨rfl, hsame⟩ := ihcs hcs hclauses
      have hrequirement : c.requirement = c'.requirement :=
        ViewEntry.clause.inj (Prod.mk.inj hclause).2
      obtain rfl : c = c' := by
        cases c
        cases c'
        exact congrArg₂ Clause.mk hrequirement hquery
      exact ⟨rfl, hsame⟩

theorem readable (tree : Tree) : tree.Readable := by
  induction tree using induction_clauses with
  | leaf field a boost =>
    intro d above above' tree' rest rest' hd hd' hrest hrest' h
    cases tree' with
    | leaf field' a' boost' =>
      simp only [entries, List.map_cons, List.map_nil, List.cons_append, List.nil_append] at h
      obtain ⟨hentry, hsame⟩ := List.cons.inj h
      obtain ⟨rfl, rfl, rfl⟩ := ViewEntry.leaf.inj (Prod.mk.inj hentry).2
      exact ⟨rfl, hsame⟩
    | boolean cs' => cases (Prod.mk.inj (List.cons.inj h).1).2
  | boolean cs ih =>
    intro d above above' tree' rest rest' hd hd' hrest hrest' h
    cases tree' with
    | leaf field a boost => cases (Prod.mk.inj (List.cons.inj h).1).2
    | boolean cs' =>
      have hdeeper : ∀ {more}, Shallower d more → Shallower (d + 1) more :=
        fun hmore e he => Nat.lt_succ_of_lt (hmore e he)
      obtain ⟨rfl, hsame⟩ := clauseEntries_inj ih (congrArg (· + 1) hd) (congrArg (· + 1) hd')
        (hdeeper hrest) (hdeeper hrest') (List.cons.inj h).2
      exact ⟨rfl, hsame⟩

end Tree

/-! ## Reading a view -/

theorem Atom.lineFeed_not_mem_viewText (a : Atom) : '\n' ∉ a.viewText.toList := by
  cases a with
  | term text => exact Text.lineFeed_not_mem_quote text
  | wildcard pattern => exact Text.lineFeed_not_mem_quote pattern
  | phrase terms => exact Text.lineFeed_not_mem_quoteList terms

theorem ViewEntry.lineFeed_not_mem_text {e : ViewEntry}
    (h : ∀ field a boost, e = .leaf field a boost → '\n' ∉ field.toList) :
    '\n' ∉ e.text.toList := by
  have hnames : ∀ name ∈ ["Term", "Wildcard", "Phrase"], '\n' ∉ name.toList := by decide
  have hmarks : ∀ requirement : Requirement, '\n' ∉ requirement.viewName.toList := by
    intro requirement
    cases requirement <;> decide
  have hends : '\n' ∉ "(".toList ∧ '\n' ∉ ":".toList ∧ '\n' ∉ ", boost=".toList ∧
      '\n' ∉ ")".toList := by decide
  cases e with
  | leaf field a boost =>
    have hname := hnames a.viewName a.viewName_mem
    have hfield := h field a boost rfl
    have hboost : '\n' ∉ boost.text.toList := boost.not_mem_text (by decide) (by decide)
    simp only [text, String.toList_append, List.mem_append, hname, hfield, hboost,
      a.lineFeed_not_mem_viewText, hends, or_self, not_false_iff]
  | group =>
    have hgroup : '\n' ∉ "Boolean".toList := by decide
    exact hgroup
  | clause requirement => exact hmarks requirement

namespace Tree

theorem lineFeed_not_mem_line {tree : Tree} (h : ∀ leaf ∈ tree.leaves, '\n' ∉ leaf.1.toList)
    {above : List ViewEntry} {e : List ViewEntry × ViewEntry} (he : e ∈ tree.entries above) :
    '\n' ∉ (viewLine e.1.length e.2.text).toList := by
  have htext : '\n' ∉ e.2.text.toList := ViewEntry.lineFeed_not_mem_text
    fun field a boost hleaf => h (field, a) (mem_leaves_of_mem_entries he hleaf)
  rw [viewLine, String.toList_append, String.toList_ofList, List.mem_append, not_or]
  exact ⟨fun hin => absurd (List.eq_of_mem_replicate hin) (by decide), htext⟩

/-- Lines without line feeds in them are the segments between line feeds. -/
theorem segments_lineFeed {lines : List String} (h : ∀ line ∈ lines, '\n' ∉ line.toList) :
    segments (· == '\n') (String.join (lines.map (· ++ "\n"))).toList =
      lines.map String.toList ++ [[]] := by
  induction lines with
  | nil => rfl
  | cons line lines ih =>
    obtain ⟨hline, hlines⟩ := List.forall_mem_cons.1 h
    have hfree : ∀ c ∈ line.toList, (c == '\n') = false := fun c hc =>
      beq_eq_false_iff_ne.2 fun heq => hline (heq ▸ hc)
    have hcut : (String.join ((line :: lines).map (· ++ "\n"))).toList =
        line.toList ++ '\n' :: (String.join (lines.map (· ++ "\n"))).toList := by
      rw [List.map_cons, String.join_cons, String.toList_append, String.toList_append,
        List.append_assoc]
      rfl
    rw [hcut, segments_cut _ _ hfree (beq_self_eq_true _), ih hlines]
    rfl

theorem segments_view {tree : Tree} (h : ∀ leaf ∈ tree.leaves, '\n' ∉ leaf.1.toList) :
    segments (· == '\n') tree.view.toList =
      (tree.entries []).map (fun e => (viewLine e.1.length e.2.text).toList) ++ [[]] := by
  have hlines : tree.viewLines 0 =
      (tree.entries []).map fun e => viewLine e.1.length e.2.text :=
    (viewLines_eq tree []).trans (List.map_map ..)
  have hfree : ∀ line ∈ tree.viewLines 0, '\n' ∉ line.toList := by
    intro line hline
    rw [hlines] at hline
    obtain ⟨e, he, rfl⟩ := List.mem_map.1 hline
    exact lineFeed_not_mem_line h he
  rw [view, segments_lineFeed hfree, hlines, List.map_map]
  rfl

theorem view_inj {tree tree' : Tree} (h : ∀ leaf ∈ tree.leaves, '\n' ∉ leaf.1.toList)
    (h' : ∀ leaf ∈ tree'.leaves, '\n' ∉ leaf.1.toList) (hview : tree.view = tree'.view) :
    tree = tree' := by
  have hlines := segments_view h
  rw [hview, segments_view h'] at hlines
  have hplaced : ∀ tree : Tree,
      (tree.entries []).map (fun e => (viewLine e.1.length e.2.text).toList) =
        ((tree.entries []).map ViewEntry.placed).map (fun e => (ViewEntry.line e).toList) := by
    intro tree
    rw [List.map_map]
    rfl
  have hinj : Function.Injective fun e => (ViewEntry.line e).toList :=
    fun e e' he => ViewEntry.line_injective (String.toList_inj.1 he)
  rw [hplaced, hplaced] at hlines
  have hentries := hinj.list_map (List.append_cancel_right hlines).symm
  have hnothing : Shallower 0 [] := by simp [Shallower]
  exact (@readable tree 0 [] [] tree' [] [] rfl rfl hnothing hnothing (by simpa using hentries)).1

/-- If no name of a field holds a line feed, the view has a line for each leaf, each group and each
clause, two spaces deep for each group and clause above it on its path, and determines the tree. -/
theorem view_faithful :
    (∀ tree : Tree, (∀ leaf ∈ tree.leaves, '\n' ∉ leaf.1.toList) →
      segments (· == '\n') tree.view.toList =
          (tree.entries []).map (fun e => (viewLine e.1.length e.2.text).toList) ++ [[]] ∧
        (tree.entries []).countP (·.2.isLeaf) = tree.leafCount ∧
        (tree.entries []).countP (·.2.isGroup) = tree.groups.length ∧
        (tree.entries []).countP (·.2.isClause) = tree.groups.flatten.length ∧
        ∀ e ∈ tree.entries [], e.1 = [] ∨
          ∃ a front, e.1 = a :: front ∧ a.isLeaf = false ∧ (front, a) ∈ tree.entries []) ∧
    ∀ tree tree' : Tree, (∀ leaf ∈ tree.leaves, '\n' ∉ leaf.1.toList) →
      (∀ leaf ∈ tree'.leaves, '\n' ∉ leaf.1.toList) → tree.view = tree'.view → tree = tree' := by
  refine ⟨fun tree h => ?_, fun tree tree' => view_inj⟩
  obtain ⟨hleaf, hgroup, hclause⟩ := tree.countP_entries []
  exact ⟨segments_view h, hleaf, hgroup, hclause, fun e he => above_of_mem_entries he⟩

/-- A field and a term with marks and a line feed still make one line of five. -/
theorem view_faithful_marks :
    let leaf := Tree.leaf "a:\"b\", boost=2)" (.term "c\", boost=3)\n\\") (.ofNat 1)
    let tree := any [leaf, boolean []]
    let tree' := boolean [⟨.optional, leaf⟩, ⟨.optional, boolean []⟩]
    (∀ leaf ∈ tree.leaves, '\n' ∉ leaf.1.toList) ∧
      (segments (· == '\n') tree.view.toList).length = 5 + 1 ∧
      (∀ leaf ∈ tree'.leaves, '\n' ∉ leaf.1.toList) ∧ tree.view = tree'.view ∧ tree = tree' := by
  intro leaf tree tree'
  have htree : ∀ leaf ∈ tree.leaves, '\n' ∉ leaf.1.toList := by decide
  have htree' : ∀ leaf ∈ tree'.leaves, '\n' ∉ leaf.1.toList := by decide
  refine ⟨htree, ?_, htree', rfl, view_faithful.2 tree tree' htree htree' rfl⟩
  rw [(view_faithful.1 tree htree).1]
  rfl

end Tree

end HelpQuery
