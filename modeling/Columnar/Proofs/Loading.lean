import Columnar.Proofs.FirstDefect
import Columnar.Proofs.Json.Yield
import Columnar.Proofs.Text.Utf8
import Columnar.Proofs.Yaml.Faults
import Columnar.Proofs.Yaml.Yield
import Columnar.Source.Load
import Mathlib

/-! How loading a schema ends: with an object that passes the check for JSON, or with a refusal of
the path. Other ends are no errors of loading: an object nested deeper than calls may be, or a
number, a date or a truth value in the file that its reader cannot make anything of, or a key that
cannot be told. Where these come from is followed back into the text. -/
namespace Columnar

namespace Document
open Value

theorem step_holds (v : Value) (name : List Point) : v.Holds (step v name) ∨ step v name = .null := by
  unfold step
  split
  · rename_i es
    cases found : Entries.get? es (.ofPoints name) with
    | none => exact .inr rfl
    | some w => exact .inl (.entry (Entries.get?_mem found) .self)
  · exact .inr rfl

/-- What is selected stands in the document, or there was nothing to select. -/
theorem select_holds (document : Value) (path : Text) :
    document.Holds (select document path) ∨ select document path = .null := by
  refine List.foldlRecOn (motive := fun v => document.Holds v ∨ v = .null) _ _ (.inl .self) ?_
  rintro v (inside | rfl) name _
  · exact (step_holds v name).imp_left inside.trans
  · exact .inr rfl

end Document

namespace Source
open Text

def Reads (data : List UInt8) (document : Value) : Format → Prop
  | .json => ∃ cs, Utf8.decode data = .ok cs ∧ Json.read (unifyNewlines cs) = .ok document
  | .yaml => Yaml.read (feed data) = .ok document

/-- What a reader stops at in a file other than for its form; or all is read, but for a key that is
too long the refusal cannot be told. -/
def Escapes (data : List UInt8) (u : Unreadable) : Format → Prop
  | .json => ∃ cs n, Utf8.decode data = .ok cs ∧ u = .longInteger n ∧
      Json.LongRun (unifyNewlines cs) n
  | .yaml => Yaml.Unread (feed data) u ∨
      u = .unwritten ∧ ∃ document, Yaml.read (feed data) = .ok document ∧ document.HasLongKey

theorem feed_stop {data : List UInt8} {f : Yaml.Fault} (stop : (feed data).stop = some f) :
    f = .malformed ∨ ∃ e, f = .undecodable e := by
  dsimp only [feed] at stop
  split at stop
  · exact .inl (Option.some.inj stop).symm
  · obtain ⟨e, _, rfl⟩ := Option.map_eq_some_iff.mp stop
    exact .inr ⟨e, rfl⟩

theorem readJson_ends {path : Path} {data : List UInt8} {e : Error}
    (failed : readJson path data = .error e) :
    (∃ cause, e = .refused path cause) ∨ ∃ u, e = .unreadable u ∧ Escapes data u .json := by
  unfold readJson at failed
  split at failed
  · cases failed
    exact .inl ⟨_, rfl⟩
  · rename_i cs decoded
    dsimp only at failed
    split at failed
    · cases failed
    · rename_i n read
      cases failed
      exact .inr ⟨_, rfl, cs, n, decoded, rfl, Json.read_longInteger read⟩
    · cases failed
      exact .inl ⟨_, rfl⟩

theorem readYaml_ends {path : Path} {data : List UInt8} {e : Error}
    (failed : readYaml path data = .error e) :
    (∃ cause, e = .refused path cause) ∨ ∃ u, e = .unreadable u ∧ Escapes data u .yaml := by
  unfold readYaml at failed
  split at failed
  · cases failed
  · cases failed
    exact .inl ⟨_, rfl⟩
  · cases failed
    exact .inl ⟨_, rfl⟩
  · rename_i u read
    cases failed
    refine .inr ⟨u, rfl, .inl ?_⟩
    rcases Yaml.read_blames _ _ read with stop | unread
    · rcases feed_stop stop with form | ⟨_, bytes⟩
      · cases form
      · cases bytes
    · cases unread
      assumption

theorem readDocument_ends {path : Path} {format : Format} {data : List UInt8} {e : Error}
    (failed : readDocument path format data = .error e) :
    (∃ cause, e = .refused path cause) ∨ ∃ u, e = .unreadable u ∧ Escapes data u format := by
  cases format with
  | json => exact readJson_ends failed
  | yaml => exact readYaml_ends failed

theorem readJson_ok {path : Path} {data : List UInt8} {document : Value}
    (done : readJson path data = .ok document) : Reads data document .json := by
  unfold readJson at done
  split at done
  · cases done
  · rename_i cs decoded
    dsimp only at done
    split at done
    · rename_i v read
      cases done
      exact ⟨cs, decoded, read⟩
    all_goals cases done

theorem readYaml_ok {path : Path} {data : List UInt8} {document : Value}
    (done : readYaml path data = .ok document) : Reads data document .yaml := by
  unfold readYaml at done
  split at done
  · rename_i v read
    cases done
    exact read
  all_goals cases done

theorem readDocument_ok {path : Path} {format : Format} {data : List UInt8} {document : Value}
    (done : readDocument path format data = .ok document) : Reads data document format := by
  cases format with
  | json => exact readJson_ok done
  | yaml => exact readYaml_ok done

theorem reads_longKey {data : List UInt8} {document : Value} {format : Format}
    (reads : Reads data document format) (long : document.HasLongKey) :
    Escapes data .unwritten format := by
  cases format with
  | json =>
    -- The keys of what is read from JSON are texts.
    obtain ⟨cs, _, read⟩ := reads
    exact absurd long (Value.json_no_longKey (Json.read_legible read))
  | yaml => exact .inr ⟨rfl, document, reads, long⟩

theorem picked_holds {key : Option Text} {document : Value} {es : Entries}
    (chosen : picked key document = .object es) : document.Holds (.object es) := by
  cases key with
  | none => exact chosen ▸ .self
  | some k =>
    change Document.select document k = .object es at chosen
    rcases Document.select_holds document k with inside | nothing
    · rwa [chosen] at inside
    · rw [nothing] at chosen
      cases chosen

theorem selectObject_ok {path : Path} {key : Option Text} {document schema : Value}
    (chosen : selectObject path key document = .ok schema) :
    ∃ es, schema = .object es ∧ picked key document = .object es := by
  unfold selectObject at chosen
  split at chosen
  · rename_i es same
    cases chosen
    exact ⟨es, rfl, same⟩
  · cases chosen

theorem selectObject_ends {path : Path} {key : Option Text} {document : Value} {e : Error}
    (failed : selectObject path key document = .error e) : e = .refused path (.notObject key) := by
  unfold selectObject at failed
  split at failed <;> cases failed
  rfl

theorem selected_file {path : Path} {format : Format}
    (known : Format.ofSuffix? path.suffix = some format) (data : List UInt8) (key : Option Text) :
    selected path (some (.file data)) key =
      (readDocument path format data).bind (selectObject path (effectiveKey key)) := by
  simp only [selected, known]

section
variable {path : Path} {node : Option Node} {key : Option Text}

theorem selected_ok {schema : Value} (chosen : selected path node key = .ok schema) :
    ∃ data format document es, node = some (.file data) ∧
      Format.ofSuffix? path.suffix = some format ∧ Reads data document format ∧
      schema = .object es ∧ document.Holds (.object es) := by
  unfold selected at chosen
  split at chosen
  · cases chosen
  · split at chosen
    · cases chosen
    · rename_i format known
      split at chosen
      · cases chosen
      · cases chosen
      · rename_i data
        cases read : readDocument path format data with
        | error e => rw [read] at chosen; cases chosen
        | ok document =>
          rw [read] at chosen
          obtain ⟨es, rfl, same⟩ := selectObject_ok chosen
          exact ⟨data, format, document, es, rfl, known, readDocument_ok read, rfl,
            picked_holds same⟩

theorem selected_ends {e : Error} (failed : selected path node key = .error e) :
    (∃ cause, e = .refused path cause) ∨ ∃ data format u, node = some (.file data) ∧
      Format.ofSuffix? path.suffix = some format ∧ e = .unreadable u ∧ Escapes data u format := by
  unfold selected at failed
  split at failed
  · cases failed
    exact .inl ⟨_, rfl⟩
  · split at failed
    · cases failed
      exact .inl ⟨_, rfl⟩
    · rename_i format known
      split at failed
      · cases failed
        exact .inl ⟨_, rfl⟩
      · cases failed
        exact .inl ⟨_, rfl⟩
      · rename_i data
        cases read : readDocument path format data with
        | error e' =>
          rw [read] at failed
          cases failed
          refine (readDocument_ends read).imp_right ?_
          rintro ⟨u, same, escapes⟩
          exact ⟨data, format, u, rfl, known, same, escapes⟩
        | ok document =>
          rw [read] at failed
          exact .inl ⟨_, selectObject_ends failed⟩

theorem checked_ok {schema v : Value} (passed : checked path key schema = .ok v) :
    v = schema ∧ Document.firstDefect schema = none := by
  unfold checked at passed
  split at passed
  · cases passed
  · cases passed
  · rename_i clear
    cases passed
    exact ⟨rfl, Document.check_passes.mp clear⟩

theorem checked_ends {schema : Value} {e : Error} (failed : checked path key schema = .error e) :
    (∃ cause, e = .refused path cause) ∨ e = .unreadable .unwritten ∧ schema.HasLongKey := by
  unfold checked at failed
  split at failed
  · rename_i u untold
    cases failed
    obtain ⟨rfl, long⟩ := Document.check_unreadable untold
    exact .inr ⟨rfl, long⟩
  · cases failed
    exact .inl ⟨_, rfl⟩
  · cases failed

end

/-- However a path, the bytes under it and a key may be, loading gives an object that passes the
check, or it refuses the path. Else more calls would have to be open at once than may be to look at
what is selected, or the reader of the file stopped at something that cannot be read. -/
theorem loading_ends (calls : Nat) (path : Path) (node : Option Node) (key : Option Text) :
    (∃ es, loadWithin calls path node key = .ok (.object es) ∧
        ∀ start, Document.incompatibility (.object es) start = none) ∨
      (∃ cause, loadWithin calls path node key = .error (.refused path cause)) ∨
      (∃ schema, selected path node key = .ok schema ∧ calls < Document.reach schema ∧
        loadWithin calls path node key = .error .tooDeep) ∨
      ∃ data format u, node = some (.file data) ∧ Format.ofSuffix? path.suffix = some format ∧
        loadWithin calls path node key = .error (.unreadable u) ∧ Escapes data u format := by
  unfold loadWithin
  cases chosen : selected path node key with
  | error e =>
    rcases selected_ends chosen with ⟨cause, rfl⟩ | ⟨data, format, u, file, known, rfl, escapes⟩
    · exact .inr (.inl ⟨cause, rfl⟩)
    · exact .inr (.inr (.inr ⟨data, format, u, file, known, rfl, escapes⟩))
  | ok schema =>
    -- Nothing is told of a schema for which there are not calls enough.
    by_cases deep : calls < Document.reach schema
    · exact .inr (.inr (.inl ⟨schema, rfl, deep, if_pos deep⟩))
    have looks : ((Except.ok schema : Except Error Value).bind fun schema =>
        if calls < Document.reach schema then .error .tooDeep
        else checked path (effectiveKey key) schema) = checked path (effectiveKey key) schema :=
      if_neg deep
    rw [looks]
    obtain ⟨data, format, document, es, file, known, reads, rfl, inside⟩ := selected_ok chosen
    cases passed : checked path (effectiveKey key) (.object es) with
    | ok v =>
      obtain ⟨rfl, clear⟩ := checked_ok passed
      exact .inl ⟨es, rfl, fun _ => Document.incompatibility_none.mpr clear⟩
    | error e =>
      rcases checked_ends passed with ⟨cause, rfl⟩ | ⟨rfl, long⟩
      · exact .inr (.inl ⟨cause, rfl⟩)
      · exact .inr (.inr (.inr ⟨data, format, _, file, known, rfl,
          reads_longKey reads (long.outside inside)⟩))

/-- A month that no year has is no error of loading. -/
theorem impossible_date_escapes :
    let file := Node.file (Utf8.encode "a: 2020-13-01".toList)
    ∀ calls, loadWithin calls ⟨.here, ["s.yaml"]⟩ (some file) none =
      .error (.unreadable (.date .month)) := by
  intro file calls
  have bytes : Utf8.encode "a: 2020-13-01".toList =
      [97, 58, 32, 50, 48, 50, 48, 45, 49, 51, 45, 48, 49] := by decide
  have handed : feed (Utf8.encode "a: 2020-13-01".toList) = ⟨"a: 2020-13-01".toList, none⟩ := by
    rw [bytes]
    cbv
  have marks : Yaml.Feed.tokens ⟨"a: 2020-13-01".toList, none⟩ = ⟨[.blockMappingStart, .key,
      .scalar "a" true, .value, .scalar "2020-13-01" true, .blockEnd], none⟩ := by cbv
  have read : Yaml.read (feed (Utf8.encode "a: 2020-13-01".toList)) =
      .error (.unreadable (.date .month)) := by
    rw [handed, Yaml.read, marks]
    rfl
  have format : Format.ofSuffix? (Path.suffix ⟨.here, ["s.yaml"]⟩) = some .yaml := by decide
  have failed : readYaml ⟨.here, ["s.yaml"]⟩ (Utf8.encode "a: 2020-13-01".toList) =
      .error (.unreadable (.date .month)) := by
    unfold readYaml
    rw [read]
  rw [loadWithin, selected_file format, readDocument, failed]
  rfl

end Source
end Columnar
