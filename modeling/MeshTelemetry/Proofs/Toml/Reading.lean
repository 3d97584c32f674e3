import Mathlib.Data.List.Perm.Basic
import MeshTelemetry.Proofs.Toml.Scanning
import MeshTelemetry.Toml.Reader

/-!
# MeshTelemetry.Proofs.Toml.Reading

What written lines do to the tables that are read from them. A statement adds to the table that the
last header has opened; where this table lies within the others is told by what stands around it.

* `Toml.Takes`: the lines of a text, and the tables before and behind them.
* `Toml.Leads`, `Toml.Focus`: a path of keys leads to a table.
* `Toml.Focus.takes_text`, `Toml.takes_header`: a statement, a header.
* `Toml.takes_elements`: an array of tables, element by element.
* `Toml.memberDocuments_perm`: the document of a table.
-/

namespace MeshTelemetry
namespace Toml

/-- The tokens are taken one after the other. -/
def build (b : Builder) (ts : List Token) : Option Builder :=
  ts.foldl (fun b t => b.bind fun b => b.step t) (some b)

theorem build_cons {b b' : Builder} {t : Token} (h : b.step t = some b') (ts : List Token) :
    build b (t :: ts) = build b' ts := by
  rw [build, List.foldl_cons, Option.bind_some, h, build]

theorem build_append {b b' : Builder} {ts : List Token} (h : build b ts = some b')
    (ts' : List Token) : build b (ts ++ ts') = build b' ts' := by
  rw [build] at h
  rw [build, List.foldl_append, h, build]

/-- `Takes text (root, path) (root', path')`: the lines of the text change the root table and the
path of the last header so. -/
def Takes (text : String) (before after : Members × List String) : Prop :=
  ∃ tokens : List Token,
    (∀ ts, scan ⟨.ready, ts⟩ text.toList = ⟨.ready, tokens.reverse ++ ts⟩) ∧
      build ⟨before.1, before.2, .line⟩ tokens = some ⟨after.1, after.2, .line⟩

namespace Takes

variable {text text' : String} {a b c : Members × List String}

theorem refl (a : Members × List String) : Takes "" a a := ⟨[], fun _ => rfl, rfl⟩

theorem append (h : Takes text a b) (h' : Takes text' b c) : Takes (text ++ text') a c := by
  obtain ⟨tokens, hscan, hbuild⟩ := h
  obtain ⟨tokens', hscan', hbuild'⟩ := h'
  refine ⟨tokens ++ tokens', fun ts => ?_, (build_append hbuild tokens').trans hbuild'⟩
  rw [String.toList_append, scan_append, hscan, hscan', List.reverse_append, List.append_assoc]

/-- A text without a mark in front is read as the root table behind its last line. -/
theorem read? {root : Members} {path : List String} (h : Takes text ([], []) (root, path))
    (hmark : ∀ c ∈ text.toList.head?, c.toNat ≠ 0xfeff) :
    Toml.read? text = some (Item.table .header root).document := by
  obtain ⟨tokens, hscan, hbuild⟩ := h
  have htokens : Toml.tokens text.toList = tokens := by
    have hall : (scan .initial text.toList).finish = tokens := by
      have hready := hscan []
      rw [List.append_nil] at hready
      exact (congrArg Scanner.finish hready).trans (List.reverse_reverse tokens)
    cases hcs : text.toList with
    | nil =>
      rw [hcs] at hall
      exact hall
    | cons c cs =>
      have hc : c.toNat ≠ 0xfeff := hmark c (by rw [hcs]; rfl)
      rw [hcs] at hall
      simp only [Toml.tokens, if_neg hc]
      exact hall
  rw [Toml.read?, htokens]
  exact congrArg (fun b => (b.bind Builder.finish).map fun root =>
    (Item.table .header root).document) hbuild

end Takes

section Paths

variable {root inner base ms : Members} {path path' : List String} {key : String}
  {plug plug' : Members → Members}

/-- The path leads from the root to a table; `plug` puts another one in its place. -/
def Leads (root : Members) (path : List String) (ms : Members) (plug : Members → Members) : Prop :=
  ∀ change, Members.within change path root = (change ms).map plug

/-- What lies on the path stays when the table at its end is changed. -/
def Focus (path : List String) (plug : Members → Members) : Prop :=
  ∀ ms, Leads (plug ms) path ms plug

theorem within_append (change : Members → Option Members) (path path' : List String) :
    ∀ ms : Members, Members.within change (path ++ path') ms =
      Members.within (Members.within change path') path ms := by
  induction path with
  | nil => exact fun _ => rfl
  | cons part path ih =>
    intro ms
    simp only [List.cons_append, Members.within, ih]

theorem Leads.trans (h : Leads root path inner plug) (h' : Leads inner path' ms plug') :
    Leads root (path ++ path') ms (plug ∘ plug') := by
  intro change
  rw [within_append, h, h', Option.map_map]

theorem focus_nil : Focus [] id := fun ms change => by
  rw [Members.within, Option.map_id]
  rfl

theorem lookup_last (h : key ∉ base.map (·.1)) (item : Item) :
    (base ++ [(key, item)]).lookup key = some item := by
  induction base with
  | nil => simp
  | cons member base ih =>
    rw [List.map_cons, List.mem_cons, not_or] at h
    have hne : (key == member.1) = false := by simpa using h.1
    rw [List.cons_append, List.lookup_cons, hne]
    exact ih h.2

theorem lookup_none (h : key ∉ ms.map (·.1)) : ms.lookup key = none := by
  induction ms with
  | nil => rfl
  | cons member ms ih =>
    rw [List.map_cons, List.mem_cons, not_or] at h
    have hne : (key == member.1) = false := by simpa using h.1
    rw [List.lookup_cons, hne]
    exact ih h.2

theorem replace_last (h : key ∉ base.map (·.1)) (item item' : Item) :
    Members.replace key item' (base ++ [(key, item)]) = base ++ [(key, item')] := by
  have hbase : Members.replace key item' base = base := by
    refine (List.map_congr_left fun member hmem => ?_).trans (List.map_id base)
    exact if_neg fun heq => h (List.mem_map.mpr ⟨member, hmem, heq⟩)
  rw [Members.replace] at hbase ⊢
  rw [List.map_append, hbase]
  simp

theorem focus_table (h : key ∉ base.map (·.1)) {origin : Origin} (horigin : origin ≠ .braces) :
    Focus [key] fun ms => base ++ [(key, .table origin ms)] := by
  intro ms change
  rw [Members.within, lookup_last h]
  simp only [Members.within, replace_last h]

theorem focus_element (h : key ∉ base.map (·.1)) (done : List Members) :
    Focus [key] fun ms => base ++ [(key, .tables (done ++ [ms]))] := by
  intro ms change
  rw [Members.within, lookup_last h]
  simp only [List.getLast?_concat, List.dropLast_concat, Members.within, replace_last h]

theorem Focus.trans (h : Focus path plug) (h' : Focus path' plug') :
    Focus (path ++ path') (plug ∘ plug') :=
  fun ms => (h (plug' ms)).trans (h' ms)

theorem leads_parent (h : key ∉ base.map (·.1)) :
    Leads base [key] [] fun ms => base ++ [(key, .table .parent ms)] := by
  intro change
  rw [Members.within, lookup_none h]
  rfl

end Paths

section Lines

variable {root root' : Members} {path : List String}

/-- The text of a statement. -/
def statement (k value : String) : String := key k ++ " = " ++ value ++ "\n"

/-- A key is taken as what it was written for. -/
theorem step_key {k : String} {t : Token} (ht : IsKey k t) :
    Builder.step ⟨root, path, .line⟩ t = some ⟨root, path, .keyEnd .statement [k]⟩ := by
  cases ht with
  | bare hbare =>
    have hall : k.toList.all Builder.isBareKeyChar = true := hbare
    simp [Builder.step, Builder.stepPhase, Builder.keyPart?, hall, Builder.goto]
  | text => rfl

/-- The text is read as this value of a key. -/
def IsValue (value : String) (item : Item) : Prop :=
  ∃ tokens : List Token,
    (∀ ts, (scan ⟨.blank, ts⟩ value.toList).Settled (tokens.reverse ++ .blank :: ts)) ∧
      ∀ (root root' : Members) (path : List String) (k : String),
        root.within (Members.assign k item []) path = some root' →
          build ⟨root, path, .value [.statement [k]]⟩ tokens = some ⟨root', path, .lineEnd⟩

theorem place_statement {b : Builder} {k : String} {item : Item}
    (hroot : b.root.within (Members.assign k item []) b.path = some root') :
    b.place item [.statement [k]] = some ⟨root', b.path, .lineEnd⟩ := by
  show (b.root.within (Members.assign k item []) b.path).map _ = _
  rw [hroot]
  rfl

theorem isValue_quoted (v : String) : IsValue (quoted v) (.leaf (.text v)) := by
  obtain ⟨multi, hwritten⟩ := written_quoted v
  refine ⟨[.text multi v], fun ts => ?_, fun root root' path k hroot => ?_⟩
  · obtain ⟨quote, rest, hquote, hcs⟩ := hwritten.quote
    have hstep : Scanner.step ⟨.blank, ts⟩ quote = Scanner.step ⟨.ready, .blank :: ts⟩ quote := by
      rcases hquote with rfl | rfl <;> rfl
    have hsettled := hwritten.settled (.blank :: ts)
    rw [hcs] at hsettled ⊢
    rwa [scan_congr hstep]
  · have hplaced : Builder.step ⟨root, path, .value [.statement [k]]⟩ (.text multi v) =
        some ⟨root', path, .lineEnd⟩ :=
      place_statement (b := ⟨root, path, .value [.statement [k]]⟩) hroot
    exact build_cons hplaced []

theorem isValue_empty : IsValue "[]" (.array []) := by
  refine ⟨[.mark '[', .mark ']'], fun ts => settled_ready _, fun root root' path k hroot => ?_⟩
  have hopened : Builder.step ⟨root, path, .value [.statement [k]]⟩ (.mark '[') =
      some ⟨root, path, .item [] [.statement [k]]⟩ := rfl
  have hplaced : Builder.step ⟨root, path, .item [] [.statement [k]]⟩ (.mark ']') =
      some ⟨root', path, .lineEnd⟩ :=
    place_statement (b := ⟨root, path, .item [] [.statement [k]]⟩) hroot
  exact (build_cons hopened _).trans (build_cons hplaced [])

theorem takes_statement {k value : String} {item : Item} (hvalue : IsValue value item)
    (hroot : root.within (Members.assign k item []) path = some root') :
    Takes (statement k value) (root, path) (root', path) := by
  obtain ⟨t, ht, hkey⟩ := scan_key k
  obtain ⟨tokens, hscan, hbuild⟩ := hvalue
  refine ⟨t :: .blank :: .mark '=' :: .blank :: (tokens ++ [.newline]), fun ts => ?_, ?_⟩
  · have hequals : scan (scan ⟨.ready, ts⟩ (key k).toList) " = ".toList =
        ⟨.blank, .mark '=' :: .blank :: t :: ts⟩ :=
      congrArg (scan · "= ".toList) (hkey ts ' ' (.inl rfl))
    have hbreak : scan (scan ⟨.blank, .mark '=' :: .blank :: t :: ts⟩ value.toList) "\n".toList =
        ⟨.ready, .newline :: (tokens.reverse ++ .blank :: .mark '=' :: .blank :: t :: ts)⟩ :=
      hscan _ '\n' (.inr rfl)
    rw [statement, String.toList_append, String.toList_append, String.toList_append, scan_append,
      scan_append, scan_append, hequals, hbreak]
    simp
  · rw [build_cons (step_key ht), build_cons rfl, build_cons rfl, build_cons rfl,
      build_append (hbuild root root' path k hroot)]
    rfl

/-- The tokens of a key of several parts without quotes, of which `key` is the last. -/
def dotted (above : List String) (key : String) : List Token :=
  above.flatMap (fun part => [.bare part.toList, .mark '.']) ++ [.bare key.toList]

/-- The tokens of a header, with two brackets if it opens an element of an array. -/
def headerTokens (double : Bool) (above : List String) (key : String) : List Token :=
  if double then
    .newline :: .mark '[' :: .mark '[' :: (dotted above key ++ [.mark ']', .mark ']', .newline])
  else .newline :: .mark '[' :: (dotted above key ++ [.mark ']', .newline])

/-- The text is an empty line and a header. -/
structure IsHeader (text : String) (double : Bool) (above : List String) (key : String) : Prop where
  tokens : ∀ ts, scan ⟨.ready, ts⟩ text.toList =
    ⟨.ready, (headerTokens double above key).reverse ++ ts⟩
  bare : ∀ part ∈ above ++ [key], part.toList.all isBareChar = true

theorem keyPart_bare {part : String} (h : part.toList.all isBareChar = true) :
    Builder.keyPart? (.bare part.toList) = some part := by
  have hall : part.toList.all Builder.isBareKeyChar = true := h
  simp [Builder.keyPart?, hall]

theorem step_part {place : KeyPlace} {keys : List String} {part : String}
    (h : part.toList.all isBareChar = true) :
    Builder.step ⟨root, path, .key place keys⟩ (.bare part.toList) =
      some ⟨root, path, .keyEnd place (part :: keys)⟩ := by
  simp [Builder.step, Builder.stepPhase, keyPart_bare h, Builder.goto]

theorem build_dotted {place : KeyPlace} {above : List String} {key : String}
    (h : ∀ part ∈ above ++ [key], part.toList.all isBareChar = true) : ∀ keys,
    build ⟨root, path, .key place keys⟩ (dotted above key) =
      some ⟨root, path, .keyEnd place (key :: (above.reverse ++ keys))⟩ := by
  induction above with
  | nil => exact fun keys => step_part (h key List.mem_cons_self)
  | cons part above ih =>
    rw [List.cons_append, List.forall_mem_cons] at h
    intro keys
    have hpoint : Builder.step ⟨root, path, .keyEnd place (part :: keys)⟩ (.mark '.') =
        some ⟨root, path, .key place (part :: keys)⟩ := by
      simp [Builder.step, Builder.stepPhase, Builder.goto]
    have hrest := ih h.2 (part :: keys)
    rw [dotted] at hrest ⊢
    rw [List.flatMap_cons, List.append_assoc, List.cons_append, List.cons_append,
      List.nil_append, build_cons (step_part h.1), build_cons hpoint, hrest, List.reverse_cons,
      List.append_assoc, List.singleton_append]

/-- What a header does at the end of its path. -/
def opener (double : Bool) : String → Members → Option Members :=
  if double then Members.openElement else Members.openTable

/-- Behind a single bracket a blank may stand, but a part of the key is taken as it is anywhere. -/
theorem build_bracket {above : List String} {key : String}
    (h : ∀ part ∈ above ++ [key], part.toList.all isBareChar = true) :
    build ⟨root, path, .bracket⟩ (dotted above key) =
      build ⟨root, path, .key .header []⟩ (dotted above key) := by
  have hfirst : ∀ part ∈ above ++ [key], ∀ tokens,
      build ⟨root, path, .bracket⟩ (.bare part.toList :: tokens) =
        build ⟨root, path, .key .header []⟩ (.bare part.toList :: tokens) := by
    intro part hpart tokens
    have hstep : Builder.step ⟨root, path, .bracket⟩ (.bare part.toList) =
        some ⟨root, path, .keyEnd .header [part]⟩ := by
      simp [Builder.step, Builder.stepPhase, keyPart_bare (h part hpart), Builder.goto]
    rw [build_cons hstep, build_cons (step_part (h part hpart))]
  cases above with
  | nil => exact hfirst key List.mem_cons_self []
  | cons part above => exact hfirst part List.mem_cons_self _

theorem takes_header {text : String} {double : Bool} {above : List String} {key : String}
    (htext : IsHeader text double above key)
    (hroot : root.within (opener double key) above = some root') :
    Takes text (root, path) (root', above ++ [key]) := by
  refine ⟨_, htext.tokens, ?_⟩
  have hend : Builder.endHeader ⟨root, path, .line⟩ (key :: (above.reverse ++ [])) (opener double) =
      some ⟨root', above ++ [key], .lineEnd⟩ := by
    simp [Builder.endHeader, Builder.lastKey?, hroot]
  cases double with
  | true =>
    have hdotted : build ⟨root, path, .key .element []⟩ (dotted above key) =
        some ⟨root, path, .keyEnd .element (key :: (above.reverse ++ []))⟩ :=
      build_dotted htext.bare []
    have hclose : Builder.step ⟨root, path, .elementEnd (key :: (above.reverse ++ []))⟩
        (.mark ']') = some ⟨root', above ++ [key], .lineEnd⟩ := hend
    calc build ⟨root, path, .line⟩ (headerTokens true above key)
      _ = build ⟨root, path, .key .element []⟩
            (dotted above key ++ [.mark ']', .mark ']', .newline]) := rfl
      _ = build ⟨root, path, .elementEnd (key :: (above.reverse ++ []))⟩
            [.mark ']', .newline] := (build_append hdotted _).trans (build_cons rfl _)
      _ = some ⟨root', above ++ [key], .line⟩ := (build_cons hclose _).trans rfl
  | false =>
    have hdotted : build ⟨root, path, .bracket⟩ (dotted above key) =
        some ⟨root, path, .keyEnd .header (key :: (above.reverse ++ []))⟩ :=
      (build_bracket htext.bare).trans (build_dotted htext.bare [])
    have hclose : Builder.step ⟨root, path, .keyEnd .header (key :: (above.reverse ++ []))⟩
        (.mark ']') = some ⟨root', above ++ [key], .lineEnd⟩ := hend
    calc build ⟨root, path, .line⟩ (headerTokens false above key)
      _ = build ⟨root, path, .bracket⟩ (dotted above key ++ [.mark ']', .newline]) := rfl
      _ = build ⟨root', above ++ [key], .lineEnd⟩ [.newline] :=
            (build_append hdotted _).trans (build_cons hclose _)
      _ = some ⟨root', above ++ [key], .line⟩ := rfl

end Lines

section Tables

variable {path : List String} {plug : Members → Members}

theorem assign_new {key : String} {ms : Members} (h : key ∉ ms.map (·.1)) (item : Item) :
    Members.assign key item [] ms = some (ms ++ [(key, item)]) := by
  rw [Members.assign, Members.add, lookup_none h]

theorem Focus.takes_statement (hfocus : Focus path plug) {k value : String} {item : Item}
    (hvalue : IsValue value item) {ms : Members} (hk : k ∉ ms.map (·.1)) :
    Takes (statement k value) (plug ms, path) (plug (ms ++ [(k, item)]), path) :=
  Toml.takes_statement hvalue (by rw [hfocus ms, assign_new hk item, Option.map_some])

theorem Focus.takes_table (hfocus : Focus path plug) {header key : String}
    (hheader : IsHeader header false path key) {ms : Members} (hkey : key ∉ ms.map (·.1))
    (above : List String) :
    Takes header (plug ms, above) (plug (ms ++ [(key, .table .header [])]), path ++ [key]) := by
  have hroot : (plug ms).within (opener false key) path =
      some (plug (ms ++ [(key, .table .header [])])) := by
    have hopened : opener false key ms = some (ms ++ [(key, .table .header [])]) := by
      show Members.openTable key ms = _
      rw [Members.openTable, lookup_none hkey]
    rw [hfocus ms, hopened, Option.map_some]
  exact takes_header hheader hroot

theorem Focus.takes_statements (hfocus : Focus path plug) (list : List (String × String)) :
    ∀ ms : Members, (ms.map (·.1) ++ list.map (·.1)).Nodup →
      Takes (String.join (list.map fun p => statement p.1 (quoted p.2))) (plug ms, path)
        (plug (ms ++ list.map fun p => (p.1, .leaf (.text p.2))), path) := by
  induction list with
  | nil => exact fun ms _ => (List.append_nil ms).symm ▸ .refl (plug ms, path)
  | cons p list ih =>
    intro ms hdistinct
    rw [List.map_cons, List.nodup_append, List.nodup_cons] at hdistinct
    obtain ⟨hms, ⟨hp, hlist⟩, hapart⟩ := hdistinct
    have hnew : p.1 ∉ ms.map (·.1) := fun hmem => hapart p.1 hmem p.1 List.mem_cons_self rfl
    have hrest : ((ms ++ [(p.1, Item.leaf (.text p.2))]).map (·.1) ++ list.map (·.1)).Nodup := by
      rw [List.map_append, List.append_assoc]
      exact List.nodup_append.mpr ⟨hms, List.nodup_cons.mpr ⟨hp, hlist⟩, hapart⟩
    have htail := ih _ hrest
    rw [List.append_assoc] at htail
    rw [List.map_cons, String.join_cons]
    exact (hfocus.takes_statement (isValue_quoted p.2) hnew).append htail

/-- Wherever an empty table is in focus, the text fills it with these members. -/
def Writes (text : String) (path : List String) (members : Members) : Prop :=
  ∀ plug, Focus path plug → ∃ path', Takes text (plug [], path) (plug members, path')

section Elements

variable {α : Type} {header key : String} {body : α → String} {members : α → Members}
  {base : Members}

/-- A header opens one more element of an array, and what is behind it fills this element. -/
theorem takes_element (hheader : IsHeader header true path key) (hkey : key ∉ base.map (·.1))
    (hfocus : Focus path plug) {root : Members} {done : List Members} {a : α}
    (hroot : root.within (Members.openElement key) path =
      some (plug (base ++ [(key, .tables (done ++ [[]]))])))
    (hbody : Writes (body a) (path ++ [key]) (members a)) (above : List String) :
    ∃ path', Takes (header ++ body a) (root, above)
      (plug (base ++ [(key, .tables (done ++ [members a]))]), path') := by
  have hopened : Takes header (root, above)
      (plug (base ++ [(key, .tables (done ++ [[]]))]), path ++ [key]) := takes_header hheader hroot
  obtain ⟨path', hfilled⟩ := hbody _ (hfocus.trans (focus_element hkey done))
  exact ⟨path', hopened.append hfilled⟩

theorem takes_moreElements (hheader : IsHeader header true path key)
    (hkey : key ∉ base.map (·.1)) (hfocus : Focus path plug) (list : List α)
    (hbody : ∀ a ∈ list, Writes (body a) (path ++ [key]) (members a)) :
    ∀ (done : List Members) (above : List String), ∃ path',
      Takes (String.join (list.map fun a => header ++ body a))
        (plug (base ++ [(key, .tables done)]), above)
        (plug (base ++ [(key, .tables (done ++ list.map members))]), path') := by
  induction list with
  | nil => exact fun done above => ⟨above, (List.append_nil done).symm ▸ .refl _⟩
  | cons a list ih =>
    rw [List.forall_mem_cons] at hbody
    intro done above
    have hroot : (plug (base ++ [(key, .tables done)])).within (Members.openElement key) path =
        some (plug (base ++ [(key, .tables (done ++ [[]]))])) := by
      rw [hfocus _ _, Members.openElement, lookup_last hkey]
      simp only [replace_last hkey, Option.map_some]
    obtain ⟨path', hfirst⟩ := takes_element hheader hkey hfocus hroot hbody.1 above
    obtain ⟨path'', hrest⟩ := ih hbody.2 (done ++ [members a]) path'
    rw [List.append_assoc] at hrest
    rw [List.map_cons, String.join_cons]
    exact ⟨path'', hfirst.append hrest⟩

theorem takes_elements (hheader : IsHeader header true path key) (hkey : key ∉ base.map (·.1))
    (hfocus : Focus path plug) {root : Members} (hroot : Leads root path base plug) {list : List α}
    (hlist : list ≠ []) (hbody : ∀ a ∈ list, Writes (body a) (path ++ [key]) (members a))
    (above : List String) : ∃ path', Takes (String.join (list.map fun a => header ++ body a))
      (root, above) (plug (base ++ [(key, .tables (list.map members))]), path') := by
  cases list with
  | nil => exact absurd rfl hlist
  | cons a list =>
    rw [List.forall_mem_cons] at hbody
    have hopened : root.within (Members.openElement key) path =
        some (plug (base ++ [(key, .tables ([] ++ [[]]))])) := by
      rw [hroot, Members.openElement, lookup_none hkey]
      rfl
    obtain ⟨path', hfirst⟩ := takes_element hheader hkey hfocus hopened hbody.1 above
    obtain ⟨path'', hrest⟩ := takes_moreElements hheader hkey hfocus list hbody.2 _ path'
    rw [List.map_cons, String.join_cons]
    exact ⟨path'', hfirst.append hrest⟩

end Elements

end Tables

section Documents

theorem insertSorted_perm (key : String) (d : Document) (list : List (Option String × Document)) :
    (Members.insertSorted key d list).Perm ((some key, d) :: list) := by
  induction list with
  | nil => exact .refl _
  | cons member list ih =>
    obtain ⟨k, v⟩ := member
    rw [Members.insertSorted]
    split
    · exact (ih.cons _).trans (.swap _ _ _)
    · exact .refl _

theorem memberDocuments_perm (ms : Members) :
    (memberDocuments ms).Perm (ms.map fun m => (some m.1, m.2.document)) := by
  induction ms with
  | nil => exact .refl _
  | cons m ms ih =>
    obtain ⟨k, item⟩ := m
    rw [memberDocuments]
    exact (insertSorted_perm k item.document _).trans (ih.cons _)

theorem tableDocuments_map {α : Type} (f : α → Members) (list : List α) :
    tableDocuments (list.map f) = list.map fun a => .map (memberDocuments (f a)) true := by
  induction list with
  | nil => rfl
  | cons a list ih => rw [List.map_cons, tableDocuments, ih, List.map_cons]

theorem memberDocuments_texts (list : List (String × String)) :
    ∃ list' : List (String × String), list'.Perm list ∧
      memberDocuments (list.map fun p => (p.1, .leaf (.text p.2))) =
        list'.map fun p => (some p.1, .text p.2) := by
  have hperm := memberDocuments_perm (list.map fun p => (p.1, .leaf (.text p.2)))
  rw [List.map_map] at hperm
  have hcomp := List.eq_map_comp_perm fun p : String × String => (some p.1, Document.text p.2)
  obtain ⟨list', hlist, hperm⟩ := (congrFun₂ hcomp _ list).mpr hperm
  exact ⟨list', hperm, hlist⟩

end Documents

end Toml
end MeshTelemetry
