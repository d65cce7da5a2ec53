import SceneRelay.Program
import SceneRelay.Proofs.Toml.Tables

/-! The document that shows a configuration describes this configuration, whatever characters its
settings are made of. -/
namespace SceneRelay.Config

open Toml

/-! ### Parts -/

namespace Part

/-- What a part says. -/
def statements (p : Part) : List Statement := sectionStatements p.1 p.2

/-- A part under a bare header, of plain settings with bare names. -/
def Plain (p : Part) : Prop := BarePath p.1 ∧ ∀ q ∈ p.2, BareName q.1 ∧ q.2.Plain

end Part

variable {ps : List Part}

theorem renderParts_cons_cons (p q : Part) (ps : List Part) :
    renderParts (p :: q :: ps) =
      p.statements.flatMap renderStatement ++ '\n' :: renderParts (q :: ps) :=
  congrArg (· ++ '\n' :: renderParts (q :: ps)) (renderSection_eq p.1 p.2)

theorem renderParts_sole (p : Part) : renderParts [p] = p.statements.flatMap renderStatement :=
  renderSection_eq p.1 p.2

theorem statements?_renderParts (h : ∀ p ∈ ps, p.Plain) (fuel : Nat) :
    statements? ((ps.flatMap Part.statements).length + (fuel + 1)) (renderParts ps) =
      some (ps.flatMap Part.statements) := by
  induction ps with
  | nil => rfl
  | cons p ps ih =>
    obtain ⟨hp, hps⟩ := List.forall_mem_cons.mp h
    have hstatements : ∀ s ∈ p.statements, s.Plain := plain_sectionStatements hp.1 hp.2
    rw [List.flatMap_cons, List.length_append, Nat.add_assoc]
    match ps with
    | [] =>
      rw [renderParts_sole, ← List.append_nil (p.statements.flatMap renderStatement),
        statements?_append hstatements]
      rfl
    | q :: ps =>
      rw [renderParts_cons_cons, statements?_append hstatements, statements?_blank, ih hps]
      rfl

theorem length_statements_le (ps : List Part) :
    (ps.flatMap Part.statements).length ≤ (renderParts ps).length := by
  induction ps with
  | nil => exact le_rfl
  | cons p ps ih =>
    have hp := length_le_render p.statements
    match ps with
    | [] => simpa [renderParts_sole] using hp
    | q :: ps =>
      rw [List.flatMap_cons, List.length_append, renderParts_cons_cons, List.length_append,
        List.length_cons]
      omega

/-- The document of some parts builds what their statements build. -/
theorem parse?_renderParts (h : ∀ p ∈ ps, p.Plain) :
    Toml.parse? (String.ofList (renderParts ps)) = ofStatements? (ps.flatMap Part.statements) := by
  have hmark : skipMark (renderParts ps) = renderParts ps := by
    match ps with
    | [] => rfl
    | [p] => rfl
    | p :: q :: ps => rfl
  obtain ⟨spare, hspare⟩ := Nat.exists_eq_add_of_le (length_statements_le ps)
  simp only [Toml.parse?, String.toList_ofList, hmark]
  rw [hspare, Nat.add_assoc, statements?_renderParts h]
  rfl

/-! ### Configurations -/

/-- The parts of the broker. -/
def brokerParts (b : BrokerSettings) : List Part :=
  (["mqtt"], [("host", .string b.host), ("port", .integer b.port.toNat),
    ("insecure", .boolean b.insecure)]) :: b.tls.toList.map tlsPart

/-- The settings of the broker, with a table for those of the encryption. -/
def brokerEntries (b : BrokerSettings) : Toml.Entries :=
  [("host", .string b.host), ("port", .integer b.port.toNat), ("insecure", .boolean b.insecure)] ++
    b.tls.toList.map fun tls => ("tls", .table .headed (tlsPart tls).2)

def trackerEntries (t : TrackerSettings) : Toml.Entries :=
  [("schema_validation", .boolean t.schemaValidation), ("schema_dir", .string t.schemaDir),
    ("healthcheck", .table .headed [("port", .integer t.healthPort.toNat)])]

def loggingEntries (l : LoggingSettings) : Toml.Entries :=
  [("level", .string l.level), ("format", .string l.format)]

/-- The tables that describe a configuration. -/
def tables (c : Config) : Toml.Entries :=
  [("mqtt", .table .headed (brokerEntries c.broker)),
    ("tracker", .table .headed (trackerEntries c.tracker)),
    ("logging", .table .headed (loggingEntries c.logging))]

variable (c : Config)

theorem nodup_tlsPart (tls : TlsSettings) : ((tlsPart tls).2.map Prod.fst).Nodup := by
  obtain ⟨ca, cert, key, verify⟩ := tls
  cases ca <;> cases cert <;> cases key <;> simp [tlsPart, pathLine]

theorem foldlM_brokerParts (b : BrokerSettings) :
    ∃ way, ((brokerParts b).flatMap Part.statements).foldlM Draft.add {} =
      some ⟨way, [("mqtt", .table .headed (brokerEntries b))]⟩ := by
  obtain ⟨host, port, insecure, tls⟩ := b
  cases tls with
  | none =>
    refine ⟨["mqtt"], ?_⟩
    simp only [brokerParts, Option.toList_none, List.map_nil, List.flatMap_cons, List.flatMap_nil,
      List.append_nil]
    exact foldlM_section_top rfl (by simp)
  | some tls =>
    refine ⟨["mqtt", "tls"], ?_⟩
    simp only [brokerParts, Option.toList_some, List.map_cons, List.map_nil, List.flatMap_cons,
      List.flatMap_nil, List.append_nil, List.foldlM_append, Option.bind_eq_bind, Part.statements]
    rw [foldlM_section_top rfl, Option.bind_some]
    · exact foldlM_section_last rfl rfl (nodup_tlsPart tls)
    · simp

theorem ofStatements?_parts : ofStatements? (c.parts.flatMap Part.statements) = some c.tables := by
  have hfold : (c.parts.flatMap Part.statements).foldlM Draft.add {} =
      some ⟨["logging"], c.tables⟩ := by
    obtain ⟨way, hbroker⟩ := foldlM_brokerParts c.broker
    have hparts : c.parts = brokerParts c.broker ++ [
      (["tracker"], [("schema_validation", .boolean c.tracker.schemaValidation),
        ("schema_dir", .string c.tracker.schemaDir)]),
      (["tracker", "healthcheck"], [("port", .integer c.tracker.healthPort.toNat)]),
      (["logging"], loggingEntries c.logging)] := rfl
    rw [hparts, List.flatMap_append, List.foldlM_append, hbroker]
    simp only [List.flatMap_cons, List.flatMap_nil, List.append_nil, List.foldlM_append,
      Option.bind_eq_bind, Option.bind_some, Part.statements]
    rw [foldlM_section_top rfl, Option.bind_some, foldlM_section_last rfl rfl, Option.bind_some]
    · exact foldlM_section_top rfl (by simp [loggingEntries])
    · simp
    · simp
  rw [ofStatements?, hfold]
  rfl

theorem plain_pathLine {name : String} (hname : BareName name) (path : Option String) :
    ∀ q ∈ pathLine name path, BareName q.1 ∧ q.2.Plain := by
  cases path with
  | none => simp [pathLine]
  | some path => simpa [pathLine] using ⟨hname, Toml.Plain.string path⟩

theorem plain_port (port : UInt16) : Toml.Plain (.integer port.toNat) := by
  have hlt := port.toNat_lt
  exact .integer (hlt.trans (by decide))

theorem plain_tlsPart (tls : TlsSettings) : (tlsPart tls).Plain := by
  have hpath : BarePath ["mqtt", "tls"] := ⟨by decide, by decide, by decide⟩
  refine ⟨hpath, ?_⟩
  simp only [tlsPart, List.forall_mem_append, List.forall_mem_singleton]
  exact ⟨⟨⟨plain_pathLine (by decide) _, plain_pathLine (by decide) _⟩,
    plain_pathLine (by decide) _⟩, by decide, .boolean _⟩

theorem plain_parts : ∀ p ∈ c.parts, p.Plain := by
  simp only [parts, List.forall_mem_append, List.forall_mem_cons, List.forall_mem_map, Part.Plain]
  refine ⟨⟨⟨⟨⟨by decide, by decide, by decide⟩, ?_⟩, by simp⟩, fun tls _ => plain_tlsPart tls⟩,
    ⟨⟨by decide, by decide, by decide⟩, ?_⟩, ⟨⟨by decide, by decide, by decide⟩, ?_⟩,
    ⟨⟨by decide, by decide, by decide⟩, ?_⟩, by simp⟩
  · exact ⟨⟨by decide, .string _⟩, ⟨by decide, plain_port _⟩, ⟨by decide, .boolean _⟩, by simp⟩
  · exact ⟨⟨by decide, .boolean _⟩, ⟨by decide, .string _⟩, by simp⟩
  · exact ⟨⟨by decide, plain_port _⟩, by simp⟩
  · exact ⟨⟨by decide, .string _⟩, ⟨by decide, .string _⟩, by simp⟩

/-! ### Reading the tables -/

theorem port?_toNat (port : UInt16) : port? (.integer port.toNat) = some port := by
  have hlt := port.toNat_lt
  have hrange : (0 : Int) ≤ port.toNat ∧ (port.toNat : Int) < 65536 := by omega
  rw [port?, if_pos hrange, Int.toNat_natCast, Nat.toUInt16, UInt16.ofNat_toNat]

theorem tls?_tlsPart (tls : TlsSettings) :
    tls? (.table .headed (tlsPart tls).2) = some tls := by
  obtain ⟨ca, cert, key, verify⟩ := tls
  cases ca <;> cases cert <;> cases key <;> rfl

theorem optional_some {α : Type} (v : Toml) (read : Toml → Option α) (default : α) :
    optional (some v) read default = read v := rfl

/-- The settings of the broker, from what its section holds under each name. -/
theorem broker?_eq_some {v port : Toml} {s : Section} {b : BrokerSettings}
    (hs : section? v = some s) (hhost : s "host" 0 = some (.string b.host))
    (hport : s "port" 1 = some port) (hread : port? port = some b.port)
    (hinsecure : s "insecure" 2 = some (.boolean b.insecure))
    (htls : optional (s "tls" 3) (fun v => (tls? v).map some) none = some b.tls) :
    broker? v = some b := by
  simp [broker?, hs, hhost, hport, hread, hinsecure, htls, string?, optional_some, bool?]

theorem broker?_brokerEntries (b : BrokerSettings) :
    broker? (.table .headed (brokerEntries b)) = some b := by
  refine broker?_eq_some rfl rfl rfl (port?_toNat b.port) rfl ?_
  obtain ⟨host, port, insecure, tls⟩ := b
  cases tls with
  | none => rfl
  | some tls =>
    have htls : (brokerEntries ⟨host, port, insecure, some tls⟩).lookup "tls" =
        some (.table .headed (tlsPart tls).2) := rfl
    simp [htls, optional, tls?_tlsPart]

theorem tracker?_eq_some {v health port : Toml} {s inner : Section} {t : TrackerSettings}
    (hs : section? v = some s)
    (hvalidation : s "schema_validation" 0 = some (.boolean t.schemaValidation))
    (hdir : s "schema_dir" 1 = some (.string t.schemaDir))
    (hhealth : s "healthcheck" 2 = some health) (hinner : section? health = some inner)
    (hport : inner "port" 0 = some port) (hread : port? port = some t.healthPort) :
    tracker? v = some t := by
  simp [tracker?, healthPort?, hs, hvalidation, hdir, hhealth, hinner, hport, hread, string?,
    optional_some, bool?]

theorem tracker?_trackerEntries (t : TrackerSettings) :
    tracker? (.table .headed (trackerEntries t)) = some t :=
  tracker?_eq_some rfl rfl rfl rfl rfl rfl (port?_toNat t.healthPort)

theorem logging?_loggingEntries (l : LoggingSettings) :
    logging? (.table .headed (loggingEntries l)) = some l := rfl

theorem ofEntries?_eq_some {entries : Toml.Entries} {c : Config} {broker tracker logging : Toml}
    (hbroker : entries.lookup "mqtt" = some broker) (hb : broker? broker = some c.broker)
    (htracker : entries.lookup "tracker" = some tracker) (ht : tracker? tracker = some c.tracker)
    (hlogging : entries.lookup "logging" = some logging)
    (hl : logging? logging = some c.logging) : ofEntries? entries = some c := by
  simp [ofEntries?, hbroker, hb, htracker, ht, hlogging, hl, optional_some]

theorem ofEntries?_tables : ofEntries? c.tables = some c := by
  have hbroker : c.tables.lookup "mqtt" = some (.table .headed (brokerEntries c.broker)) := rfl
  have htracker : c.tables.lookup "tracker" = some (.table .headed (trackerEntries c.tracker)) :=
    rfl
  have hlogging : c.tables.lookup "logging" = some (.table .headed (loggingEntries c.logging)) :=
    rfl
  exact ofEntries?_eq_some hbroker (broker?_brokerEntries c.broker) htracker
    (tracker?_trackerEntries c.tracker) hlogging (logging?_loggingEntries c.logging)

/-- The document of a configuration describes it. -/
theorem parse?_toText : parse? c.toText = some c := by
  have hentries : Toml.parse? c.toText = some c.tables :=
    (parse?_renderParts c.plain_parts).trans c.ofStatements?_parts
  exact Option.bind_eq_some_iff.mpr ⟨c.tables, hentries, ofEntries?_tables c⟩

/-! ### Loading -/

variable {c}

theorem applyEnvironment_none : c.applyEnvironment (fun _ => none) = (c, none) := by
  have hget (name : String) : Environment.get? (fun _ => none) name = none := rfl
  have hplain : applyOverrides (fun _ => none) overrides c = (c, none) := by
    simp [applyOverrides, overrides, hget]
  have htls : applyTls (fun _ => none) c = (c, none) := by
    simp only [applyTls, hget]
    rfl
  simp only [applyEnvironment, hplain, htls]

theorem checked_eq (c : Config) :
    (do c.validate; return c) = c.fault?.elim (.ok c) fun f => .error (.invalid f) := by
  rw [validate]
  cases c.fault? <;> rfl

/-- A file with the document of a configuration gives this configuration, if it passes its checks,
and otherwise its first fault. -/
theorem ofFile_toText {files : Files} {path : String} (h : files path = .ok c.toText.toUTF8) :
    ofFile files path (fun _ => none) = c.fault?.elim (.ok c) fun f => .error (.invalid f) := by
  have htext : String.fromUTF8? c.toText.toUTF8 = some c.toText := dif_pos c.toText.isValidUTF8
  simp only [ofFile, h, htext, ofText, parse?_toText, Option.elim_some, applyEnvironment_none]
  exact checked_eq c

/-- What is loaded is what file and environment give, with the settings of the flags, and has passed
its checks. -/
theorem exists_of_load {files : Files} {path : String} {env : Environment} {flags : Flags}
    (h : load files path env flags = .ok c) :
    ∃ d, ofFile files path env = .ok d ∧ c = d.withFlags flags ∧ c.fault? = none := by
  cases hfile : ofFile files path env with
  | error e =>
    rw [load, hfile] at h
    nomatch h
  | ok d =>
    rw [load, hfile] at h
    have hchecked := (checked_eq (d.withFlags flags)).symm.trans h
    cases hfault : (d.withFlags flags).fault? with
    | some f =>
      rw [hfault] at hchecked
      nomatch hchecked
    | none =>
      rw [hfault] at hchecked
      cases hchecked
      exact ⟨d, rfl, rfl, hfault⟩

theorem fault?_of_load {files : Files} {path : String} {env : Environment} {flags : Flags}
    (h : load files path env flags = .ok c) : c.fault? = none := by
  obtain ⟨_, _, _, hfault⟩ := exists_of_load h
  exact hfault

/-- The document that shows a configuration describes exactly this configuration. The loader gives
it back if it passes its checks, and else tells its first fault; one that the program shows has
passed them. -/
theorem shown_configuration_loads (c : Config) :
    parse? c.toText = some c ∧
    (∀ files path, files path = .ok c.toText.toUTF8 →
      ofFile files path (fun _ => none) = c.fault?.elim (.ok c) fun f => .error (.invalid f)) ∧
    ∀ (w : World) (i : Invocation), i.command = .config true →
      load w.surroundings.files i.configPath w.env ⟨i.level, i.healthPort⟩ = .ok c →
      (∃ records, Program.invoke w i =
        .finished 0 records ("Effective configuration:\n" ++ c.toText ++ "\n")) ∧
      ∀ files path, files path = .ok c.toText.toUTF8 →
        ofFile files path (fun _ => none) = .ok c := by
  refine ⟨parse?_toText c, fun files path => ofFile_toText, fun w i hshow hload => ⟨?_, ?_⟩⟩
  · have hinvoke : Program.invoke w i = Program.showConfig w c true := by
      rw [Program.invoke, hshow]
      simp only [Program.invoke.withConfig, hload]
    exact ⟨_, hinvoke⟩
  · intro files path hfile
    rw [ofFile_toText hfile, fault?_of_load hload]
    rfl

/-- With only a broker set, with no environment and no flags. -/
theorem shown_configuration_loads_defaults :
    let c : Config := { broker := { host := "broker", port := 1883 } }
    let files : Files := fun _ => .ok c.toText.toUTF8
    (∃ records, Program.invoke ⟨fun _ => none, { files }, Probe.noAnswer, "tracker"⟩
        ⟨"tracker.toml", none, none, .config true⟩ =
      .finished 0 records ("Effective configuration:\n" ++ c.toText ++ "\n")) ∧
    ofFile files "tracker.toml" (fun _ => none) = .ok c := by
  intro c files
  obtain ⟨-, hfile, hshown⟩ := shown_configuration_loads c
  have hvalid : c.fault? = none := by decide
  have hload : load files "tracker.toml" (fun _ => none) {} = .ok c := by
    rw [load, hfile files "tracker.toml" rfl, hvalid]
    exact (checked_eq c).trans (by rw [hvalid]; rfl)
  obtain ⟨hprinted, hback⟩ := hshown ⟨fun _ => none, { files }, Probe.noAnswer, "tracker"⟩
    ⟨"tracker.toml", none, none, .config true⟩ rfl hload
  exact ⟨hprinted, hback files "tracker.toml" rfl⟩

/-- A level that the service does not know can be written and read, but not loaded. -/
theorem unknown_level_not_loaded :
    let c : Config :=
      { broker := { host := "broker", port := 1883 }, logging := { level := "loud" } }
    parse? c.toText = some c ∧
    ofFile (fun _ => .ok c.toText.toUTF8) "tracker.toml" (fun _ => none) =
      .error (.invalid (.unknownLevel "loud")) := by
  intro c
  have hfault : c.fault? = some (.unknownLevel "loud") := by decide
  have hload : ofFile (fun _ => .ok c.toText.toUTF8) "tracker.toml" (fun _ => none) =
      c.fault?.elim (.ok c) fun f => .error (.invalid f) := ofFile_toText rfl
  rw [hfault] at hload
  exact ⟨parse?_toText c, hload⟩

end SceneRelay.Config
