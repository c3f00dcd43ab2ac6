import FormLetter.Output.World
import FormLetter.Proofs.Template.ByName
import FormLetter.Proofs.Template.Verbatim
import Mathlib.Data.List.Perm.Basic

/-!
The engine as a store of sources. Whatever has been asked of it, what it answers next is dictated by
the sources that names stand for, each the last one that was compiled under its name without error.
-/
namespace FormLetter

/-- What an engine can be asked. The stream of an execution stands for any writer, since it may
refuse to take more after any number of bytes. -/
inductive Request where
  | compile (name source : String)
  | execute (name : String) (context : Json) (out : Stream)
  | executeToString (name : String) (context : Json)
  | has (name : String)

inductive Reply where
  | compiled (result : Except RenderError Unit)
  | executed (out : Stream) (result : Except RenderError Unit)
  | text (result : Except RenderError String)
  | has (found : Bool)

namespace Engine

variable {σ : Type}

def ask (e : Engine σ) (s : σ) : Request → σ × Reply
  | .compile name source =>
    let (s, result) := e.compile s name source
    (s, .compiled result)
  | .execute name context out =>
    let (s, x) := e.execute s name context
    let (out, written) := out.write x.emitted
    (s, .executed out (e.outcome x written))
  | .executeToString name context =>
    let (s, result) := e.executeToString s name context
    (s, .text result)
  | .has name => (s, .has (e.has s name))

/-- Answers requests one after the other. -/
def serve (e : Engine σ) (s : σ) : List Request → σ × List (Request × Reply)
  | [] => (s, [])
  | r :: rest =>
    let (next, answer) := e.ask s r
    let (last, log) := e.serve next rest
    (last, (r, answer) :: log)

end Engine

namespace Template

/-! ### Sources -/

/-- The source that an answered request has put in the place of a name. -/
def sourceFrom? (name : String) : Request × Reply → Option String
  | (.compile n source, .compiled (.ok ())) => if n = name then some source else none
  | _ => none

/-- The source that a name stands for: the last one that was compiled under it without error. -/
def source? (log : List (Request × Reply)) (name : String) : Option String :=
  log.reverse.findSome? (sourceFrom? name)

/-- The sources that names stand for, in any order. -/
structure Lists (sources : List (String × String)) (log : List (Request × Reply)) : Prop where
  distinct : (sources.map (·.1)).Nodup
  lookup (name : String) : sources.lookup name = source? log name

def Readable (sources : List (String × String)) : Prop :=
  ∀ name source, (name, source) ∈ sources → ∃ t, read name source = .ok t

def templatesOf (sources : List (String × String)) : List Template :=
  sources.filterMap fun (name, source) => (read name source).toOption

/-- The text and the failure of a run of the source that a name stands for, among the others. -/
def runOf? (sources : List (String × String)) (name : String) (context : Json) :
    Option (String × Option Error) :=
  (sources.lookup name).bind fun source =>
    (read name source).toOption.map fun t => t.run (templatesOf sources) (.ofJson context)

def notFound (name : String) : RenderError :=
  .templateNotFound (Eval.missing name).message

/-- The answer that sources dictate. -/
def dictated (sources : List (String × String)) : Request → Reply
  | .compile name source =>
    match read name source with
    | .ok _ => .compiled (.ok ())
    | .error e => .compiled (.error (.ofTemplate e))
  | .execute name context out =>
    match runOf? sources name context with
    | none => .executed out (.error (notFound name))
    | some (text, failure) =>
      match out.write (bytesOf text), failure with
      | (out, .error _), _ => .executed out (.error (.ofTemplate writeError))
      | (out, .ok ()), some e => .executed out (.error (.ofTemplate e))
      | (out, .ok ()), none => .executed out (.ok ())
  | .executeToString name context =>
    match runOf? sources name context with
    | none => .text (.error (notFound name))
    | some (_, some e) => .text (.error (.ofTemplate e))
    | some (text, none) => .text (.ok text)
  | .has name => .has (sources.lookup name).isSome

variable {s : Store} {log : List (Request × Reply)} {sources : List (String × String)}

theorem source?_append (log : List (Request × Reply)) (answered : Request × Reply)
    (name : String) :
    source? (log ++ [answered]) name = (sourceFrom? name answered).or (source? log name) := by
  unfold source?
  rw [List.reverse_append, List.reverse_singleton, List.singleton_append, List.findSome?_cons]
  cases sourceFrom? name answered <;> rfl

theorem isSome_source?_iff (log : List (Request × Reply)) (name : String) :
    (source? log name).isSome ↔ ∃ source, (.compile name source, .compiled (.ok ())) ∈ log := by
  simp only [source?, List.findSome?_isSome_iff, List.mem_reverse]
  constructor
  · rintro ⟨⟨r, answer⟩, member, put⟩
    unfold sourceFrom? at put
    split at put
    next n source same =>
      cases same
      split at put
      next same => exact ⟨source, same ▸ member⟩
      next => cases put
    next => cases put
  · rintro ⟨source, member⟩
    exact ⟨_, member, by simp [sourceFrom?]⟩

/-! ### What the store holds -/

theorem name_of_read {name source : String} {t : Template} (parsed : read name source = .ok t) :
    t.name = name := by
  unfold read at parsed
  dsimp only at parsed
  split at parsed
  next => cases parsed; rfl
  next => cases parsed

/-- The store has one template for every source that stands, and no others. -/
structure Store.Holds (s : Store) (log : List (Request × Reply)) : Prop where
  distinct : (s.map (·.name)).Nodup
  stands (name : String) :
    Option.Rel (fun t source => read name source = .ok t) (s.find? name) (source? log name)

theorem nodup_insert (distinct : (s.map (·.name)).Nodup) (t : Template) :
    ((s.insert t).map (·.name)).Nodup := by
  rw [Store.insert, List.map_cons, List.nodup_cons]
  refine ⟨?_, (List.filter_sublist.map _).nodup distinct⟩
  simp

theorem find?_insert_of_ne {name : String} {t : Template} (other : t.name ≠ name) (s : Store) :
    (s.insert t).find? name = s.find? name := by
  unfold Store.insert Store.find?
  rw [List.find?_cons_of_neg (by simpa using other), List.find?_filter]
  congr 1
  funext u
  by_cases same : u.name = name <;> simp [same, Ne.symm other]

theorem executeToString_eq (s : Store) (name : String) (context : Json) :
    engine.executeToString s name context = (s,
      match s.find? name with
      | none => .error (notFound name)
      | some t =>
        match t.run s (.ofJson context) with
        | (_, some e) => .error (.ofTemplate e)
        | (text, none) => .ok text) := by
  have decoded (text : String) : Text.Utf8.decode? (bytesOf text) = some text.toList :=
    Text.Utf8.decode?_encode text.toList
  simp only [Engine.executeToString, engine, Store.execute]
  cases s.find? name with
  | none => rfl
  | some t =>
    dsimp only
    cases t.run s (.ofJson context) with
    | mk text failure =>
      cases failure with
      | none => simp [decoded]
      | some e => rfl

theorem ask_fst_of_ne {r : Request} (kept : (engine.ask s r).2 ≠ .compiled (.ok ())) :
    (engine.ask s r).1 = s := by
  cases r with
  | compile name source =>
    simp only [Engine.ask, engine, Store.compile] at kept ⊢
    cases parsed : read name source with
    | ok t => simp [parsed] at kept
    | error e => rfl
  | execute name context out => rfl
  | executeToString name context => simp only [Engine.ask, executeToString_eq]
  | has name => rfl

theorem lookup_of_mem (distinct : (sources.map (·.1)).Nodup) {name source : String}
    (member : (name, source) ∈ sources) : sources.lookup name = some source := by
  induction sources with
  | nil => cases member
  | cons entry rest ih =>
    rw [List.map_cons, List.nodup_cons] at distinct
    rw [List.lookup_cons]
    obtain rfl | later := List.mem_cons.mp member
    · simp
    · have other : (name == entry.1) = false := by
        rw [beq_eq_false_iff_ne]
        rintro rfl
        exact distinct.1 (List.mem_map.mpr ⟨_, later, rfl⟩)
      rw [other]
      exact ih distinct.2 later

theorem templatesOf_cons {name source : String} {t : Template} (parsed : read name source = .ok t)
    (rest : List (String × String)) :
    templatesOf ((name, source) :: rest) = t :: templatesOf rest := by
  simp [templatesOf, parsed, Except.toOption]

theorem Readable.tail {entry : String × String} {rest : List (String × String)}
    (readable : Readable (entry :: rest)) : Readable rest :=
  fun name source member => readable name source (List.mem_cons_of_mem _ member)

theorem find?_templatesOf (readable : Readable sources) (name : String) :
    (templatesOf sources).find? (·.name == name) =
      (sources.lookup name).bind fun source => (read name source).toOption := by
  induction sources with
  | nil => rfl
  | cons entry rest ih =>
    obtain ⟨n, source⟩ := entry
    obtain ⟨t, parsed⟩ := readable n source List.mem_cons_self
    rw [templatesOf_cons parsed, List.find?_cons, List.lookup_cons, name_of_read parsed, BEq.comm]
    by_cases same : name = n
    · subst same
      simp [parsed, Except.toOption]
    · have other : (name == n) = false := by simpa using same
      rw [other]
      exact ih readable.tail

theorem map_name_templatesOf (readable : Readable sources) :
    (templatesOf sources).map (·.name) = sources.map (·.1) := by
  induction sources with
  | nil => rfl
  | cons entry rest ih =>
    obtain ⟨n, source⟩ := entry
    obtain ⟨t, parsed⟩ := readable n source List.mem_cons_self
    rw [templatesOf_cons parsed, List.map_cons, List.map_cons, name_of_read parsed,
      ih readable.tail]

theorem lookup_map_name (f : Template → String) (ts : List Template) (name : String) :
    (ts.map fun t => (t.name, f t)).lookup name = (ts.find? (·.name == name)).map f := by
  induction ts with
  | nil => rfl
  | cons t rest ih =>
    rw [List.map_cons, List.lookup_cons, List.find?_cons, BEq.comm]
    cases t.name == name with
    | true => rfl
    | false => exact ih

theorem mem_names_iff (ts : List Template) (name : String) :
    name ∈ ts.map (·.name) ↔ (ts.find? (·.name == name)).isSome := by
  simp [List.find?_isSome]

theorem holds_empty : Store.Holds emptyStore [] :=
  ⟨List.nodup_nil, fun _ => .none⟩

namespace Store.Holds

theorem insert (held : s.Holds log) {name source : String} {t : Template}
    (parsed : read name source = .ok t) :
    (s.insert t).Holds (log ++ [(.compile name source, .compiled (.ok ()))]) := by
  have named := name_of_read parsed
  refine ⟨nodup_insert held.distinct t, fun n => ?_⟩
  rw [source?_append, sourceFrom?]
  by_cases same : name = n
  · have found := find?_insert_self s t
    rw [named, same] at found
    rw [found, if_pos same, Option.some_or]
    exact .some (same ▸ parsed)
  · rw [find?_insert_of_ne (named.trans_ne same), if_neg same, Option.none_or]
    exact held.stands n

/-- A request that puts no source in place leaves all of them. -/
theorem keep (held : s.Holds log) (r : Request) {answer : Reply}
    (kept : answer ≠ .compiled (.ok ())) : s.Holds (log ++ [(r, answer)]) := by
  refine ⟨held.distinct, fun name => ?_⟩
  have nothing_put : sourceFrom? name (r, answer) = none := by
    unfold sourceFrom?
    split
    next answered => exact absurd (congrArg Prod.snd answered) kept
    next => rfl
  rw [source?_append, nothing_put, Option.none_or]
  exact held.stands name

theorem ask (held : s.Holds log) (r : Request) :
    (engine.ask s r).1.Holds (log ++ [(r, (engine.ask s r).2)]) := by
  by_cases compiled : (engine.ask s r).2 = .compiled (.ok ())
  · -- Only a source that was read is answered like that.
    cases r with
    | compile name source =>
      simp only [Engine.ask, engine, Store.compile] at compiled ⊢
      cases parsed : read name source with
      | error e => simp [parsed] at compiled
      | ok t => exact held.insert parsed
    | execute => cases compiled
    | executeToString => cases compiled
    | has => cases compiled
  · rw [ask_fst_of_ne compiled]
    exact held.keep r compiled

theorem serve (held : s.Holds log) (requests : List Request) :
    (engine.serve s requests).1.Holds (log ++ (engine.serve s requests).2) := by
  induction requests generalizing s log with
  | nil => simpa [Engine.serve] using held
  | cons r rest ih => simpa [Engine.serve] using ih (held.ask r)

theorem find?_eq (held : s.Holds log) (lists : Lists sources log) (name : String) :
    s.find? name = (sources.lookup name).bind fun source => (read name source).toOption := by
  have stands := held.stands name
  rw [lists.lookup]
  generalize s.find? name = found, source? log name = standing at stands
  cases stands with
  | none => rfl
  | some parsed => simp [parsed, Except.toOption]

/-- What names stand for can be listed. -/
theorem exists_lists (held : s.Holds log) : ∃ sources, Lists sources log := by
  -- Every name in the store has a source, so the empty one is never taken.
  refine ⟨s.map fun t => (t.name, (source? log t.name).getD ""), ?_, fun name => ?_⟩
  · simpa [Function.comp_def] using held.distinct
  · have stands := held.stands name
    rw [lookup_map_name]
    change (s.find? name).map _ = _
    generalize s.find? name = t?, source : source? log name = standing at stands
    cases stands with
    | none => rfl
    | @some t _ parsed =>
      rw [Option.map_some, name_of_read parsed, source, Option.getD_some]

theorem readable (held : s.Holds log) (lists : Lists sources log) : Readable sources := by
  intro name source member
  have looked : sources.lookup name = some source := lookup_of_mem lists.distinct member
  have stands := held.stands name
  rw [← lists.lookup, looked] at stands
  generalize s.find? name = found at stands
  cases stands with
  | some parsed => exact ⟨_, parsed⟩

theorem sameTemplates (held : s.Holds log) (lists : Lists sources log) :
    SameTemplates s (templatesOf sources) := by
  intro name
  rw [find?_templatesOf (held.readable lists)]
  exact held.find?_eq lists name

theorem length_eq (held : s.Holds log) (lists : Lists sources log) :
    s.length = (templatesOf sources).length := by
  have distinct : ((templatesOf sources).map (·.name)).Nodup := by
    rw [map_name_templatesOf (held.readable lists)]
    exact lists.distinct
  -- Both are without repetitions, so the same names are as many.
  have same : (s.map (·.name)).Perm ((templatesOf sources).map (·.name)) := by
    rw [List.perm_ext_iff_of_nodup held.distinct distinct]
    intro name
    have known := held.sameTemplates lists name
    rw [mem_names_iff, mem_names_iff, known]
  simpa using same.length_eq

end Store.Holds

/-! ### What is answered -/

theorem runOf?_eq (held : s.Holds log) (lists : Lists sources log) (name : String)
    (context : Json) :
    runOf? sources name context = (s.find? name).map fun t => t.run s (.ofJson context) := by
  have same (t : Template) (data : Value) : t.run (templatesOf sources) data = t.run s data :=
    (run_among (held.sameTemplates lists) (held.length_eq lists) t data).symm
  rw [held.find?_eq lists name, Option.map_bind, runOf?]
  simp only [same]
  rfl

theorem write_nil (out : Stream) : out.write [] = (out, .ok ()) := by
  obtain ⟨written, room, flushFails⟩ := out
  cases room <;> simp [Stream.write]

/-- What is answered is what the sources dictate. -/
theorem ask_snd_eq (held : s.Holds log) (lists : Lists sources log) (r : Request) :
    (engine.ask s r).2 = dictated sources r := by
  have runs := runOf?_eq held lists
  cases r with
  | compile name source =>
    simp only [Engine.ask, engine, Store.compile, dictated]
    cases read name source <;> rfl
  | execute name context out =>
    simp only [Engine.ask, engine, Store.execute, dictated, runs]
    cases s.find? name with
    | none =>
      -- The error comes before any write, so not even a full writer hides it.
      simp only [write_nil]
      rfl
    | some t =>
      simp only [Option.map_some]
      cases t.run s (.ofJson context) with
      | mk text failure =>
        dsimp only
        cases out.write (bytesOf text) with
        | mk out written => cases written <;> cases failure <;> rfl
  | executeToString name context =>
    simp only [Engine.ask, executeToString_eq, dictated, runs]
    cases s.find? name with
    | none => rfl
    | some t =>
      simp only [Option.map_some]
      cases t.run s (.ofJson context) with
      | mk text failure => cases failure <;> rfl
  | has name =>
    have known := lists.lookup name
    have stands := held.stands name
    simp only [Engine.ask, engine, dictated, known]
    generalize s.find? name = found, source? log name = standing at stands
    cases stands <;> rfl

/-- A text result is what an execution leaves in a writer that takes everything. -/
theorem exists_ask_execute_unlimited (s : Store) (name : String) (context : Json) :
    ∃ out ended result, (engine.ask s (.execute name context .unlimited)).2 = .executed out ended ∧
      (engine.ask s (.executeToString name context)).2 = .text result ∧
      result.map bytesOf = ended.map fun () => out.written := by
  have answered := congrArg (fun ended => Reply.text ended.2) (executeToString_eq s name context)
  refine ⟨_, _, _, rfl, answered, ?_⟩
  simp only [engine, Store.execute]
  cases s.find? name with
  | none => rfl
  | some t =>
    dsimp only
    cases t.run s (.ofJson context) with
    | mk text failure => cases failure <;> rfl

/-- Whatever was asked of the engine, what it answers next is dictated by the sources that stand,
and only a source that compiles changes what it answers later. -/
theorem engine_serves_sources (requests : List Request) :
    let s := (engine.serve emptyStore requests).1
    let log := (engine.serve emptyStore requests).2
    (∃ sources, Lists sources log) ∧
    (∀ sources r, Lists sources log → (engine.ask s r).2 = dictated sources r) ∧
    (∀ name, (engine.ask s (.has name)).2 = .has true ↔
      ∃ source, (.compile name source, .compiled (.ok ())) ∈ log) ∧
    (∀ r later, (engine.ask s r).2 ≠ .compiled (.ok ()) →
      (engine.serve (engine.ask s r).1 later).2 = (engine.serve s later).2) ∧
    ∀ name context, ∃ out ended result,
      (engine.ask s (.execute name context .unlimited)).2 = .executed out ended ∧
      (engine.ask s (.executeToString name context)).2 = .text result ∧
      result.map bytesOf = ended.map fun () => out.written := by
  intro s log
  have held : s.Holds log := holds_empty.serve requests
  obtain ⟨sources, lists⟩ := held.exists_lists
  refine ⟨⟨sources, lists⟩, fun _ r lists => ask_snd_eq held lists r, fun name => ?_,
    fun r later kept => ?_, exists_ask_execute_unlimited s⟩
  · rw [ask_snd_eq held lists, dictated, Reply.has.injEq, lists.lookup, isSome_source?_iff]
  · rw [ask_fst_of_ne kept]

/-- A source that does not compile leaves the earlier one of its name standing. -/
theorem engine_serves_sources_recompiled :
    let served := engine.serve emptyStore [.compile "t" "hi", .compile "t" "\x7b\x7b"]
    Lists [("t", "hi")] served.2 ∧
      (engine.ask served.1 (.executeToString "t" .null)).2 = .text (.ok "hi") ∧
      (engine.serve (engine.ask served.1 (.has "u")).1 [.has "t"]).2 =
        (engine.serve served.1 [.has "t"]).2 := by
  intro served
  have answered : ∃ e, served.2 = [(.compile "t" "hi", .compiled (.ok ())),
      (.compile "t" "\x7b\x7b", .compiled (.error e))] := ⟨_, rfl⟩
  obtain ⟨e, log⟩ := answered
  have lists : Lists [("t", "hi")] served.2 := by
    refine ⟨by decide, fun name => ?_⟩
    rw [log]
    by_cases same : "t" = name
    · subst same
      rfl
    · have other : (name == "t") = false := by simpa using Ne.symm same
      simp [source?, sourceFrom?, List.findSome?_cons, List.lookup_cons, other, same]
  have ran : runOf? [("t", "hi")] "t" .null = some ("hi", none) := by decide +kernel
  obtain ⟨-, answers, -, keeps, -⟩ :=
    engine_serves_sources [.compile "t" "hi", .compile "t" "\x7b\x7b"]
  refine ⟨lists, ?_, keeps (.has "u") [.has "t"] nofun⟩
  rw [answers _ (.executeToString "t" .null) lists, dictated, ran]

end Template

end FormLetter
