import ClangHost.Proofs.JsonSpelling

/-!
What stands at the front of a JSON text, from what the front is read as: a text between quotes
(`quotes_of_value`), a numeral (`numeral_of_value`), a null, or a table with one key
(`nullTable_of_value`), each after blanks. They are read back so whatever follows
(`value_of_quotes`, `value_of_numeral`, `value_of_nullTable`).
-/
namespace ClangHost.Json

/-- What a value is read as, by how it begins. -/
inductive Begins : List Char → Document.Node → List Char → Prop where
  | emptyTable {s rest : List Char} : skipBlanks s = '\x7d' :: rest →
      Begins ('\x7b' :: s) (.table [] false) rest
  | table {fuel : Nat} {s rest : List Char} {cut : Bool}
      {es : List (Document.Key × Option Document.Span × Document.Node)} :
      entries fuel (skipBlanks s) = (es, cut, some rest) →
      Begins ('\x7b' :: s) (.table es cut) rest
  | list (s : List Char) (items : List (Option Document.Span × Document.Node)) (cut : Bool)
      (rest : List Char) : Begins ('[' :: s) (.list items cut) rest
  | text {s cs rest : List Char} : text? s = some (some cs, rest) →
      Begins ('"' :: s) (.text (String.ofList cs)) rest
  | integer {raw : List Char} {n : Int} (rest : List Char) : Numeral raw n →
      Begins (raw ++ rest) (.integer n) rest
  | float (s : List Char) (text : String) (rest : List Char) : Begins s (.float text) rest
  | null (rest : List Char) : Begins ('n' :: 'u' :: 'l' :: 'l' :: rest) .null rest
  | bool (s : List Char) (b : Bool) (rest : List Char) : Begins s (.bool b) rest
  | unreadable (s rest : List Char) : Begins s .unreadable rest

theorem begins_of_number {s rest : List Char} {l : Literal}
    (read : Literal.read? s = some (l, rest)) : Begins s l.node rest := by
  rcases l.node_cases with ⟨n, same⟩ | ⟨t, same⟩ | same
  · obtain ⟨raw, rfl, numeral⟩ := Literal.numeral_of_node read same
    rw [same]
    exact .integer rest numeral
  · rw [same]
    exact .float s t rest
  · rw [same]
    exact .unreadable s rest

theorem after?_eq_some {word s rest : List Char} (read : after? word s = some rest) :
    s = word ++ rest := by
  fun_induction after? word s with
  | case1 => exact Option.some.inj read
  | case2 word c s ih =>
    rw [ih read]
    rfl
  | case3 | case4 => cases read

theorem begins_of_value {fuel : Nat} {s rest : List Char} {x : Document.Node}
    (read : value fuel s = (x, some rest)) : Begins (skipBlanks s) x rest := by
  cases fuel with
  | zero => cases read
  | succ fuel =>
    rw [value] at read
    split at read
    case h_1 => cases read
    case h_2 s first =>
      rw [first]
      split at read
      case h_1 closed =>
        cases read
        exact .emptyTable closed
      case h_2 =>
        split at read
        rename_i es cut rest' inside
        cases read
        exact .table inside
    case h_3 s first =>
      rw [first]
      split at read
      case h_1 =>
        cases read
        exact .list s [] false rest
      case h_2 =>
        obtain ⟨rfl, -⟩ := Prod.mk.inj read
        exact .list s _ _ rest
    case h_4 s first =>
      rw [first]
      split at read
      case h_1 => cases read
      case h_2 =>
        cases read
        exact .unreadable _ rest
      case h_3 text =>
        cases read
        exact .text text
    case h_5 c s _ _ _ first =>
      rw [first]
      split at read
      case isTrue =>
        split at read
        case h_1 => cases read
        case h_2 number =>
          cases read
          exact begins_of_number number
      case isFalse =>
        split at read
        case h_1 word =>
          cases read
          rw [after?_eq_some word]
          exact .null rest
        case h_2 =>
          split at read
          case h_1 =>
            cases read
            exact .bool _ true rest
          case h_2 =>
            split at read
            case h_1 =>
              cases read
              exact .bool _ false rest
            case h_2 => cases read

theorem exists_begins {fuel : Nat} {s rest : List Char} {x : Document.Node}
    (read : value fuel s = (x, some rest)) :
    ∃ b front, Blank b ∧ s = b ++ front ∧ Begins front x rest := by
  obtain ⟨b, blank, split⟩ := exists_blank s
  exact ⟨b, _, blank, split, begins_of_value read⟩

inductive Quotes : List Char → List Char → Prop where
  | intro {raw cs : List Char} : Spells raw cs → Quotes ('"' :: raw ++ ['"']) cs

theorem text?_of_quotes {q cs : List Char} (quotes : Quotes q cs) (rest : List Char) :
    ∃ s, q ++ rest = '"' :: s ∧ text? s = some (some cs, rest) := by
  cases quotes with
  | @intro raw _ spells =>
    refine ⟨raw ++ '"' :: rest, by simp, ?_⟩
    exact (text?_eq_some_iff _ _ _).mpr ⟨raw, rfl, spells⟩

theorem quotes_of_text? {s cs rest : List Char} (read : text? s = some (some cs, rest)) :
    ∃ q, Quotes q cs ∧ '"' :: s = q ++ rest := by
  obtain ⟨raw, rfl, spells⟩ := (text?_eq_some_iff s cs rest).mp read
  exact ⟨_, .intro spells, by simp⟩

theorem quotes_of_value {fuel : Nat} {s rest : List Char} {t : String}
    (read : value fuel s = (.text t, some rest)) :
    ∃ b q, Blank b ∧ Quotes q t.toList ∧ s = b ++ q ++ rest := by
  obtain ⟨b, front, blank, rfl, begins⟩ := exists_begins read
  cases begins with
  | @text s cs _ inside =>
    obtain ⟨q, quotes, same⟩ := quotes_of_text? inside
    exact ⟨b, q, blank, by rwa [String.toList_ofList], by rw [same, List.append_assoc]⟩

theorem value_of_quotes {b q cs : List Char} (blank : Blank b) (quotes : Quotes q cs) (fuel : Nat)
    (rest : List Char) :
    value (fuel + 1) (b ++ q ++ rest) = (.text (String.ofList cs), some rest) := by
  obtain ⟨s, same, inside⟩ := text?_of_quotes quotes rest
  rw [List.append_assoc, same, value, skipBlanks_append blank, Value.skipBlanks_cons rfl]
  simp only [inside]

theorem numeral_of_value {fuel : Nat} {s rest : List Char} {n : Int}
    (read : value fuel s = (.integer n, some rest)) :
    ∃ b raw, Blank b ∧ Numeral raw n ∧ s = b ++ raw ++ rest := by
  obtain ⟨b, front, blank, rfl, begins⟩ := exists_begins read
  cases begins with
  | @integer raw _ _ numeral => exact ⟨b, raw, blank, numeral, (List.append_assoc b raw rest).symm⟩

theorem value_of_numeral {b raw rest : List Char} {n : Int} (blank : Blank b)
    (numeral : Numeral raw n) (fits : Fits n) (ends : Ends rest) (fuel : Nat) :
    value (fuel + 1) (b ++ raw ++ rest) = (.integer n, some rest) := by
  have written := (numeral_iff raw n).mp numeral
  obtain ⟨c, s, begins, number⟩ := Value.toString_eq_cons n
  have read := read?_toString n ends
  have reads := Value.value_number (c := c) number fuel (by rwa [begins] at read)
  rw [Literal.node_ofInt fits] at reads
  rw [written, begins, List.append_assoc, value, skipBlanks_append blank]
  rw [value] at reads
  exact reads

theorem null_of_value {fuel : Nat} {s rest : List Char} (read : value fuel s = (.null, some rest)) :
    ∃ b, Blank b ∧ s = b ++ ['n', 'u', 'l', 'l'] ++ rest := by
  obtain ⟨b, front, blank, rfl, begins⟩ := exists_begins read
  cases begins
  exact ⟨b, blank, by simp⟩

theorem value_null {b : List Char} (blank : Blank b) (fuel : Nat) (rest : List Char) :
    value (fuel + 1) (b ++ ['n', 'u', 'l', 'l'] ++ rest) = (.null, some rest) := by
  rw [value, List.append_assoc, skipBlanks_append blank]
  rfl

/-! ### Tables with one entry -/

theorem cut_of_entries_eq_nil {fuel : Nat} {s : List Char} {cut : Bool} {rest : Option (List Char)}
    (read : entries fuel s = ([], cut, rest)) : cut = true := by
  cases fuel with
  | zero =>
    cases read
    rfl
  | succ fuel =>
    rw [entries] at read
    split at read
    case h_2 =>
      cases read
      rfl
    case h_1 =>
      split at read
      case h_1 =>
        cases read
        rfl
      case h_2 =>
        dsimp only at read
        split at read
        · cases read
          rfl
        · cases read

theorem entries_eq_single {fuel : Nat} {s rest : List Char} {key : Document.Key}
    {span : Option Document.Span} {x : Document.Node}
    (read : entries fuel s = ([(key, span, x)], false, some rest)) :
    ∃ less a q b t d, Blank a ∧ Quotes q key.name.toList ∧ Blank b ∧ Blank d ∧
      s = a ++ q ++ b ++ ':' :: t ∧ value less t = (x, some (d ++ '\x7d' :: rest)) := by
  cases fuel with
  | zero => cases read
  | succ fuel =>
    obtain ⟨a, before, split⟩ := exists_blank s
    rw [entries] at read
    split at read
    case h_2 => cases read
    case h_1 s quoted =>
      split at read
      case h_1 => cases read
      case h_2 name u inside =>
        dsimp only at read
        split at read
        case h_1 => cases read
        case h_2 name =>
          split at read
          case h_2 => cases read
          case h_1 t colon =>
            split at read
            case h_1 => cases read
            case h_2 y w this =>
              split at read
              case h_1 =>
                -- nothing stands after a comma, so the tree is cut there
                simp only [Prod.mk.injEq, List.cons.injEq] at read
                obtain ⟨⟨_, none⟩, whole, _⟩ := read
                cases (cut_of_entries_eq_nil (Prod.ext none rfl)).symm.trans whole
              case h_2 closed =>
                cases read
                obtain ⟨q, quotes, opened⟩ := quotes_of_text? inside
                obtain ⟨b, between, second⟩ := exists_blank u
                obtain ⟨d, behind, last⟩ := exists_blank w
                refine ⟨fuel, a, q, b, t, d, before, by rwa [String.toList_ofList], between, behind,
                  ?_, ?_⟩
                · rw [split, quoted, opened, second, colon]
                  simp
                · rw [this, last, closed]
              case h_3 => cases read

theorem entries_of_single {fuel : Nat} {a q b t d key rest : List Char} {x : Document.Node}
    (before : Blank a) (quotes : Quotes q key) (between : Blank b) (behind : Blank d)
    (read : value fuel t = (x, some (d ++ '\x7d' :: rest))) :
    entries (fuel + 1) (a ++ q ++ b ++ ':' :: t) =
      ([(⟨String.ofList key, none⟩, none, x)], false, some rest) := by
  obtain ⟨s, opened, inside⟩ := text?_of_quotes quotes (b ++ ':' :: t)
  rw [entries, List.append_assoc, List.append_assoc, skipBlanks_append before, opened,
    Value.skipBlanks_cons rfl]
  simp only [inside]
  rw [skipBlanks_append between, Value.skipBlanks_cons rfl]
  simp only [read]
  rw [skipBlanks_append behind, Value.skipBlanks_cons rfl]
  rfl

inductive NullTable : List Char → List Char → Prop where
  | intro {a q b c d key : List Char} : Blank a → Quotes q key → Blank b → Blank c → Blank d →
      NullTable ('\x7b' :: a ++ q ++ b ++ ':' :: c ++ ['n', 'u', 'l', 'l'] ++ d ++ ['\x7d']) key

theorem nullTable_of_value {fuel : Nat} {s rest : List Char} {key : Document.Key}
    {span : Option Document.Span}
    (read : value fuel s = (.table [(key, span, .null)] false, some rest)) :
    ∃ b raw, Blank b ∧ NullTable raw key.name.toList ∧ s = b ++ raw ++ rest := by
  obtain ⟨b, front, blank, rfl, begins⟩ := exists_begins read
  cases begins with
  | @table _ u _ _ _ inside =>
    obtain ⟨a, before, opened⟩ := exists_blank u
    obtain ⟨_, a', q, between, t, d, before', quotes, gap, behind, entry, last⟩ :=
      entries_eq_single inside
    obtain ⟨c, after, rfl⟩ := null_of_value last
    refine ⟨b, _, blank, .intro (before.append before') quotes gap after behind, ?_⟩
    rw [opened, entry]
    simp

theorem value_of_nullTable {b raw key : List Char} (blank : Blank b) (table : NullTable raw key)
    (fuel : Nat) (rest : List Char) :
    value (fuel + 3) (b ++ raw ++ rest) =
      (.table [(⟨String.ofList key, none⟩, none, .null)] false, some rest) := by
  cases table with
  | @intro a q between c d key before quotes gap after behind =>
    -- the blanks behind the brace are skipped before the entries are read, so that these begin with
    -- the key
    let t := c ++ ['n', 'u', 'l', 'l'] ++ (d ++ '\x7d' :: rest)
    obtain ⟨s, opened, _⟩ := text?_of_quotes quotes (between ++ ':' :: t)
    have inside : entries (fuel + 2) ('"' :: s) =
        ([(⟨String.ofList key, none⟩, none, .null)], false, some rest) := by
      have null : value (fuel + 1) t = (.null, some (d ++ '\x7d' :: rest)) :=
        value_null after fuel _
      have read := entries_of_single (a := []) nofun quotes gap behind null
      rwa [List.nil_append, List.append_assoc, opened] at read
    have quoted : skipBlanks (a ++ '"' :: s) = '"' :: s := by
      rw [skipBlanks_append before, Value.skipBlanks_cons rfl]
    have shape : '\x7b' :: a ++ q ++ between ++ ':' :: c ++ ['n', 'u', 'l', 'l'] ++ d ++ ['\x7d'] ++
        rest = '\x7b' :: (a ++ '"' :: s) := by
      rw [← opened]
      simp [t]
    rw [List.append_assoc, shape, value, skipBlanks_append blank, Value.skipBlanks_cons rfl]
    simp only [quoted]
    split
    · exact absurd (List.cons.inj ‹_›).1 (by decide)
    · rw [inside]

/-! ### Documents -/

theorem complete_iff (s : List Char) : (read s).complete ↔
    ∃ rest, value (2 * s.length + 2) s = ((read s).root, some rest) ∧ Blank rest := by
  unfold read
  rcases value (2 * s.length + 2) s with ⟨root, _ | rest⟩
  · simp
  · simpa using blank_iff rest

theorem read_of_value {s rest : List Char} {x : Document.Node}
    (front : value (2 * s.length + 2) s = (x, some rest)) (blank : Blank rest) :
    read s = ⟨x, true⟩ := by
  unfold read
  rw [front]
  exact congrArg (Reading.mk x) ((blank_iff rest).mpr blank)

theorem decode_eq_ok_iff {α : Type} {f : Document.Node → Except Document.Fault α} {s : List Char}
    {x : α} : decode f s = .ok x ↔ f (read s).root = .ok x ∧ (read s).complete := by
  unfold decode
  rcases read s with ⟨root, complete⟩
  cases shaped : f root with
  | error fault => simp [shaped, bind, Except.bind]
  | ok y => cases complete <;> simp [shaped, bind, Except.bind]

end ClangHost.Json
