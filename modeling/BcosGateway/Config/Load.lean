import BcosGateway.Config.HostGrammar
import BcosGateway.Host.VerifyCallback
import BcosGateway.Service.StaticNodes

/-! From the configuration file to the endpoints that a gateway dials. -/

namespace BcosGateway

/-- `stdException` is what is left of an exception that was caught as a `std::exception` and thrown
    again by value. -/
inductive ConfigException where
  | invalidParameter (comment : StdString)
  | iniParserError
  | stdException
  deriving DecidableEq, Repr

inductive Halted where
  | thrown (exception : ConfigException)
  | fault (fault : Fault)
  deriving DecidableEq, Repr

/-- The keys of a `ptree` with their sections, as in `p2p.listen_ip`. -/
abbrev PropertyTree := Table StdString StdString

/-- What the loader calls: boost, jsoncpp, OpenSSL and the files. `readBool` and `readInt` are the
    translators of the property tree, `none` where they fail. -/
structure ConfigEnvironment where
  boost : BoostReaders
  json : JsonCpp
  readBool : StdString → Option Bool
  readInt : StdString → Option Int
  readIni : StdString → Option PropertyTree
  readContentsToString : StdString → Option (List UInt8)
  currentPath : StdString
  diagnosticInformation : ConfigException → StdString
  readX509 : List UInt8 → Option Certificate
  toHexString : Bytes → StdString
  /-- Whether OpenSSL takes the certificates and the key of these files. -/
  sslContext : List StdString → Bool

structure CertConfig where
  caCert : StdString := []
  nodeKey : StdString := []
  nodeCert : StdString := []
  deriving DecidableEq, Repr

structure SMCertConfig where
  caCert : StdString := []
  nodeCert : StdString := []
  nodeKey : StdString := []
  enNodeCert : StdString := []
  enNodeKey : StdString := []
  deriving DecidableEq, Repr

def CertConfig.files (certConfig : CertConfig) : List StdString :=
  [certConfig.caCert, certConfig.nodeCert, certConfig.nodeKey]

def SMCertConfig.files (smCertConfig : SMCertConfig) : List StdString :=
  [smCertConfig.caCert, smCertConfig.nodeCert, smCertConfig.nodeKey, smCertConfig.enNodeCert,
    smCertConfig.enNodeKey]

/-- `m_smSSL` and `m_listenPort` have no value before `initP2PConfig`, and are not read before. -/
structure GatewayConfig where
  smSSL : Bool := false
  listenIP : StdString := []
  listenPort : UInt16 := 0
  connectedNodes : KeySet NodeIPEndpoint := ∅
  certConfig : CertConfig := {}
  smCertConfig : SMCertConfig := {}
  certPath : StdString := []
  nodePath : StdString := []
  nodeFileName : StdString := []

namespace GatewayConfig

section Loaders

variable (env : ConfigEnvironment) (pt : PropertyTree) (config : GatewayConfig)

def getString (path default : String) : StdString :=
  (pt.lookup (asciiString path)).getD (asciiString default)

/-- `get` with a default gives the default for a value that is not read, too. -/
def getBool (path : String) (default : Bool) : Bool :=
  ((pt.lookup (asciiString path)).bind env.readBool).getD default

def getInt (path : String) (default : Int) : Int :=
  ((pt.lookup (asciiString path)).bind env.readInt).getD default

def initP2PConfig : Except ConfigException Unit × GatewayConfig :=
  let smSSL := getBool env pt "p2p.sm_ssl" false
  let listenIP := getString pt "p2p.listen_ip" "0.0.0.0"
  let listenPort := getInt env pt "p2p.listen_port" 30300
  if !isValidPort listenPort then
    (.error (.invalidParameter (asciiString "initP2PConfig: invalid listen port, port=" ++
      asciiString (toString listenPort))), config)
  else
    -- not set the nodePath, load from the config
    let config := if config.nodePath.isEmpty then
      { config with nodePath := getString pt "p2p.nodes_path" "./" } else config
    let config := { config with nodeFileName := getString pt "p2p.nodes_file" "nodes.json" }
    (.ok (), { config with smSSL, listenIP, listenPort := narrow listenPort })

def checkFileExist (path : StdString) : Except ConfigException Unit :=
  match env.readContentsToString path with
  | none | some [] =>
    .error (.invalidParameter
      (asciiString "checkFileExist: unable to load file content  maybe file not exist, path: " ++
        path))
  | some _ => .ok ()

def initCertPath : GatewayConfig :=
  if config.certPath.isEmpty then { config with certPath := getString pt "cert.ca_path" "./" }
  else config

def certFile (name default : String) : StdString :=
  config.certPath ++ asciiString "/" ++ getString pt name default

def readCertConfig : CertConfig where
  caCert := config.certFile pt "cert.ca_cert" "ca.crt"
  nodeCert := config.certFile pt "cert.node_cert" "ssl.crt"
  nodeKey := config.certFile pt "cert.node_key" "ssl.key"

def readSMCertConfig : SMCertConfig where
  caCert := config.certFile pt "cert.sm_ca_cert" "sm_ca.crt"
  nodeCert := config.certFile pt "cert.sm_node_cert" "sm_ssl.crt"
  nodeKey := config.certFile pt "cert.sm_node_key" "sm_ssl.key"
  enNodeCert := config.certFile pt "cert.sm_ennode_cert" "sm_enssl.crt"
  enNodeKey := config.certFile pt "cert.sm_ennode_key" "sm_enssl.key"

def initCertConfig : Except ConfigException Unit × GatewayConfig :=
  let config := config.initCertPath pt
  let certConfig := config.readCertConfig pt
  match certConfig.files.forM (checkFileExist env) with
  | .error exception => (.error exception, config)
  | .ok () => (.ok (), { config with certConfig })

def initSMCertConfig : Except ConfigException Unit × GatewayConfig :=
  let config := config.initCertPath pt
  let smCertConfig := config.readSMCertConfig pt
  match smCertConfig.files.forM (checkFileExist env) with
  | .error exception => (.error exception, config)
  | .ok () => (.ok (), { config with smCertConfig })

def initConfigError (exception : ConfigException) : ConfigException :=
  .invalidParameter (asciiString "initConfig: currentPath:" ++ env.currentPath ++
    asciiString " ,error:" ++ env.diagnosticInformation exception)

def initConfig (configPath : StdString) : Except ConfigException Unit × GatewayConfig :=
  match env.readIni configPath with
  | none => (.error (initConfigError env .iniParserError), config)
  | some pt =>
    match config.initP2PConfig env pt with
    | (.error exception, config) => (.error (initConfigError env exception), config)
    | (.ok (), config) =>
      let (outcome, config) :=
        if config.smSSL then config.initSMCertConfig env pt else config.initCertConfig env pt
      (outcome.mapError (initConfigError env), config)

/-- The loop of `parseConnectedJson`. Every exception in it is caught and thrown again. -/
def insertEndpoints : List Json → KeySet NodeIPEndpoint →
    Except Halted Unit × KeySet NodeIPEndpoint
  | [], nodeIPEndpointSet => (.ok (), nodeIPEndpointSet)
  | jNode :: jNodes, nodeIPEndpointSet =>
    match jNode.asString with
    | none => (.error (.thrown .stdException), nodeIPEndpointSet)
    | some host =>
      match hostAndPort2Endpoint env.boost host ⟨"", 0⟩ with
      | (.error (.fault fault), _) => (.error (.fault fault), nodeIPEndpointSet)
      | (.error (.thrown _), _) => (.error (.thrown .stdException), nodeIPEndpointSet)
      | (.ok (), endpoint) => insertEndpoints jNodes (nodeIPEndpointSet.insert endpoint ())

def parseConnectedJson (text : StdString) (nodeIPEndpointSet : KeySet NodeIPEndpoint) :
    Except Halted Unit × KeySet NodeIPEndpoint :=
  match env.json.parse text with
  | none => (.error (.thrown .stdException), nodeIPEndpointSet)
  | some root =>
    match root.member "nodes" with
    | none => (.error (.thrown .stdException), nodeIPEndpointSet)
    | some (.array jNodes) => insertEndpoints env jNodes nodeIPEndpointSet
    | some _ => (.ok (), nodeIPEndpointSet)

def nodeFilePath : StdString := config.nodePath ++ asciiString "/" ++ config.nodeFileName

def loadP2pConnectedNodes : Except Halted Unit × GatewayConfig :=
  match env.readContentsToString config.nodeFilePath with
  | none | some [] =>
    (.error (.thrown (.invalidParameter
      (asciiString "initP2PConfig: unable to read nodes json file, path=" ++
        config.nodeFilePath))), config)
  | some jsonContent =>
    match parseConnectedJson env jsonContent ∅ with
    | (.error halted, _) => (.error halted, config)
    | (.ok (), nodes) => (.ok (), { config with connectedNodes := nodes })

end Loaders

def certFiles (config : GatewayConfig) : List StdString :=
  if config.smSSL then config.smCertConfig.files else config.certConfig.files

def nodeCert (config : GatewayConfig) : StdString :=
  if config.smSSL then config.smCertConfig.nodeCert else config.certConfig.nodeCert

end GatewayConfig

namespace Service

variable {φ : Type}

def setStaticNodes (service : Service φ) (staticNodes : KeySet NodeIPEndpoint) : Service φ :=
  { service with
    staticNodes := staticNodes.keys.foldl (fun nodes endpoint => nodes.add endpoint [])
      service.staticNodes }

end Service

namespace GatewayFactory

variable (env : ConfigEnvironment)

def fresh (φ : Type) (pubHex : P2pID) : Service φ :=
  { nodeID := pubHex, run := false, manager := { p2pNodeID := pubHex } }

/-- `buildGateway` of a configuration, as far as the service: the rest only connects objects. -/
def buildService (φ : Type) (config : GatewayConfig) : Except Halted (Service φ) :=
  match cert2PubHexHandler env.toHexString (env.readContentsToString config.nodeCert)
    env.readX509 [] with
  | (false, _) => .error (.thrown .stdException)
  | (true, pubHex) =>
    if env.sslContext config.certFiles then
      .ok ((fresh φ pubHex).setStaticNodes config.connectedNodes)
    else .error (.thrown .stdException)

def buildGateway (φ : Type) (configPath : StdString) :
    Except Halted (GatewayConfig × Service φ) :=
  match ({} : GatewayConfig).initConfig env configPath with
  | (.error exception, _) => .error (.thrown exception)
  | (.ok (), config) =>
    match config.loadP2pConnectedNodes env with
    | (.error halted, _) => .error halted
    | (.ok (), config) => (buildService env φ config).map fun service => (config, service)

end GatewayFactory

namespace GatewayConfig

section Loading

variable {env : ConfigEnvironment} {pt : PropertyTree} {config after : GatewayConfig}

def Readable (env : ConfigEnvironment) (file : StdString) : Prop :=
  ∃ content, env.readContentsToString file = some content ∧ content ≠ []

theorem checkFileExist_ok_iff {file : StdString} :
    checkFileExist env file = .ok () ↔ Readable env file := by
  unfold checkFileExist Readable
  cases env.readContentsToString file with
  | none => simp
  | some content =>
    cases content with
    | nil => simp
    | cons first rest => simp

theorem checkFiles_ok_iff {files : List StdString} :
    files.forM (checkFileExist env) = .ok () ↔ ∀ file ∈ files, Readable env file := by
  induction files with
  | nil => exact ⟨fun _ => nofun, fun _ => rfl⟩
  | cons file files ih =>
    rw [List.forall_mem_cons, ← ih, ← checkFileExist_ok_iff]
    change (checkFileExist env file >>= fun _ => files.forM (checkFileExist env)) = .ok () ↔ _
    rw [bind_eq_ok]
    constructor
    · rintro ⟨_, first, rest⟩
      exact ⟨first, rest⟩
    · rintro ⟨first, rest⟩
      exact ⟨(), first, rest⟩

theorem initCertConfig_ok_iff :
    config.initCertConfig env pt = (.ok (), after) ↔
      (∀ file ∈ ((config.initCertPath pt).readCertConfig pt).files, Readable env file) ∧
        after = { config.initCertPath pt with
          certConfig := (config.initCertPath pt).readCertConfig pt } := by
  unfold initCertConfig
  rw [← checkFiles_ok_iff]
  simp only
  cases ((config.initCertPath pt).readCertConfig pt).files.forM (checkFileExist env) with
  | error exception => simp
  | ok done => simp [eq_comm]

theorem initSMCertConfig_ok_iff :
    config.initSMCertConfig env pt = (.ok (), after) ↔
      (∀ file ∈ ((config.initCertPath pt).readSMCertConfig pt).files, Readable env file) ∧
        after = { config.initCertPath pt with
          smCertConfig := (config.initCertPath pt).readSMCertConfig pt } := by
  unfold initSMCertConfig
  rw [← checkFiles_ok_iff]
  simp only
  cases ((config.initCertPath pt).readSMCertConfig pt).files.forM (checkFileExist env) with
  | error exception => simp
  | ok done => simp [eq_comm]

def p2pConfigured (env : ConfigEnvironment) (pt : PropertyTree) : GatewayConfig where
  smSSL := getBool env pt "p2p.sm_ssl" false
  listenIP := getString pt "p2p.listen_ip" "0.0.0.0"
  listenPort := narrow (getInt env pt "p2p.listen_port" 30300)
  nodePath := getString pt "p2p.nodes_path" "./"
  nodeFileName := getString pt "p2p.nodes_file" "nodes.json"

theorem initP2PConfig_ok_iff :
    ({} : GatewayConfig).initP2PConfig env pt = (.ok (), after) ↔
      isValidPort (getInt env pt "p2p.listen_port" 30300) = true ∧
        after = p2pConfigured env pt := by
  cases valid : isValidPort (getInt env pt "p2p.listen_port" 30300) with
  | false =>
    unfold initP2PConfig
    simp only [valid, Bool.not_false, ↓reduceIte]
    constructor
    · nofun
    · nofun
  | true =>
    have ran : ({} : GatewayConfig).initP2PConfig env pt = (.ok (), p2pConfigured env pt) := by
      unfold initP2PConfig
      simp only [valid, Bool.not_true, Bool.false_eq_true, ↓reduceIte]
      rfl
    rw [ran]
    constructor
    · intro same
      exact ⟨rfl, (Prod.mk.inj same).2.symm⟩
    · rintro ⟨_, rfl⟩
      rfl

def configured (env : ConfigEnvironment) (pt : PropertyTree) : GatewayConfig :=
  let config := (p2pConfigured env pt).initCertPath pt
  if config.smSSL then { config with smCertConfig := config.readSMCertConfig pt }
  else { config with certConfig := config.readCertConfig pt }

theorem configured_listenPort (env : ConfigEnvironment) (pt : PropertyTree) :
    (configured env pt).listenPort = narrow (getInt env pt "p2p.listen_port" 30300) := by
  unfold configured
  simp only
  split
  · rfl
  · rfl

theorem certConfigured_ok_iff :
    (if (p2pConfigured env pt).smSSL then (p2pConfigured env pt).initSMCertConfig env pt
      else (p2pConfigured env pt).initCertConfig env pt) = (.ok (), after) ↔
      (∀ file ∈ (configured env pt).certFiles, Readable env file) ∧
        after = configured env pt := by
  by_cases sm : (p2pConfigured env pt).smSSL = true
  · have made : configured env pt =
        { (p2pConfigured env pt).initCertPath pt with
          smCertConfig := ((p2pConfigured env pt).initCertPath pt).readSMCertConfig pt } :=
      if_pos sm
    have files : (configured env pt).certFiles =
        (((p2pConfigured env pt).initCertPath pt).readSMCertConfig pt).files := by
      rw [made]
      exact if_pos sm
    rw [if_pos sm, files, made]
    exact initSMCertConfig_ok_iff
  · have made : configured env pt =
        { (p2pConfigured env pt).initCertPath pt with
          certConfig := ((p2pConfigured env pt).initCertPath pt).readCertConfig pt } :=
      if_neg sm
    have files : (configured env pt).certFiles =
        (((p2pConfigured env pt).initCertPath pt).readCertConfig pt).files := by
      rw [made]
      exact if_neg sm
    rw [if_neg sm, files, made]
    exact initCertConfig_ok_iff

theorem mapError_ok_iff {first : Except ConfigException Unit × GatewayConfig}
    {change : ConfigException → ConfigException} :
    (first.1.mapError change, first.2) = (.ok (), after) ↔ first = (.ok (), after) := by
  rcases first with ⟨outcome, config⟩
  cases outcome with
  | error exception => simp [Except.mapError]
  | ok done => simp [Except.mapError]

theorem initConfig_ok_iff {configPath : StdString} :
    ({} : GatewayConfig).initConfig env configPath = (.ok (), after) ↔
      ∃ pt, env.readIni configPath = some pt ∧
        isValidPort (getInt env pt "p2p.listen_port" 30300) = true ∧
        (∀ file ∈ (configured env pt).certFiles, Readable env file) ∧
        after = configured env pt := by
  unfold initConfig
  cases read : env.readIni configPath with
  | none => simp
  | some pt =>
    simp only [Option.some.injEq, exists_eq_left']
    have started := @initP2PConfig_ok_iff env pt
    cases first : ({} : GatewayConfig).initP2PConfig env pt with
    | mk outcome config =>
      cases outcome with
      | error exception =>
        constructor
        · nofun
        · rintro ⟨valid, _⟩
          have ran := started.mpr ⟨valid, rfl⟩
          cases first.symm.trans ran
      | ok done =>
        obtain ⟨valid, rfl⟩ := started.mp first
        simp only [valid, true_and]
        exact mapError_ok_iff.trans certConfigured_ok_iff

/-! The endpoints of the nodes file. -/

def Names (env : ConfigEnvironment) (jNode : Json) (endpoint : NodeIPEndpoint) : Prop :=
  ∃ host, jNode.asString = some host ∧ parse env.boost host = .ok endpoint

theorem insertEndpoints_named {jNode : Json} {endpoint : NodeIPEndpoint}
    (named : Names env jNode endpoint) (jNodes : List Json) (nodes : KeySet NodeIPEndpoint) :
    insertEndpoints env (jNode :: jNodes) nodes =
      insertEndpoints env jNodes (nodes.insert endpoint ()) := by
  obtain ⟨host, text, parsed⟩ := named
  rw [insertEndpoints]
  simp only [text, hostAndPort2Endpoint, parsed]

theorem insertEndpoints_unnamed {jNode : Json} (unnamed : ∀ endpoint, ¬ Names env jNode endpoint)
    (jNodes : List Json) (nodes : KeySet NodeIPEndpoint) :
    ∃ halted, insertEndpoints env (jNode :: jNodes) nodes = (.error halted, nodes) := by
  rw [insertEndpoints]
  cases text : jNode.asString with
  | none => exact ⟨_, rfl⟩
  | some host =>
    cases parsed : parse env.boost host with
    | ok endpoint => exact absurd ⟨host, text, parsed⟩ (unnamed endpoint)
    | error stopped =>
      simp only [hostAndPort2Endpoint, parsed]
      cases stopped with
      | thrown exception => exact ⟨_, rfl⟩
      | fault fault => exact ⟨_, rfl⟩

/-- The loop gets to its end where every entry is read, and has then inserted what they name. -/
theorem insertEndpoints_spec (jNodes : List Json) (nodes : KeySet NodeIPEndpoint) :
    (∃ inserted, insertEndpoints env jNodes nodes = (.ok (), inserted) ∧
      (∀ jNode ∈ jNodes, ∃ endpoint, Names env jNode endpoint) ∧
      ∀ endpoint, endpoint ∈ inserted ↔
        endpoint ∈ nodes ∨ ∃ jNode ∈ jNodes, Names env jNode endpoint) ∨
    (∃ halted inserted, insertEndpoints env jNodes nodes = (.error halted, inserted) ∧
      ∃ jNode ∈ jNodes, ∀ endpoint, ¬ Names env jNode endpoint) := by
  induction jNodes generalizing nodes with
  | nil =>
    left
    refine ⟨nodes, rfl, fun _ => nofun, fun endpoint => ?_⟩
    simp
  | cons jNode jNodes ih =>
    by_cases named : ∃ endpoint, Names env jNode endpoint
    · obtain ⟨endpoint, named⟩ := named
      rw [insertEndpoints_named named]
      rcases ih (nodes.insert endpoint ()) with
        ⟨inserted, ran, all, holds⟩ | ⟨halted, inserted, ran, other, member, unnamed⟩
      · refine .inl ⟨inserted, ran, List.forall_mem_cons.mpr ⟨⟨endpoint, named⟩, all⟩, ?_⟩
        intro other
        have same : Names env jNode other ↔ other = endpoint := by
          obtain ⟨host, text, parsed⟩ := named
          constructor
          · rintro ⟨again, alsoText, alsoParsed⟩
            cases text.symm.trans alsoText
            exact (Except.ok.inj (parsed.symm.trans alsoParsed)).symm
          · rintro rfl
            exact ⟨host, text, parsed⟩
        rw [holds, AList.mem_insert, List.exists_mem_cons_iff, same, or_assoc, or_left_comm]
      · exact .inr ⟨halted, inserted, ran, other, List.mem_cons_of_mem _ member, unnamed⟩
    · have unnamed : ∀ endpoint, ¬ Names env jNode endpoint := not_exists.mp named
      obtain ⟨halted, ran⟩ := insertEndpoints_unnamed unnamed jNodes nodes
      exact .inr ⟨halted, nodes, ran, jNode, List.mem_cons_self, unnamed⟩

def listed : Json → List Json
  | .array jNodes => jNodes
  | _ => []

def NodesFile (env : ConfigEnvironment) (path : StdString) (jNodes : List Json) : Prop :=
  ∃ content root value, env.readContentsToString path = some content ∧ content ≠ [] ∧
    env.json.parse content = some root ∧ root.member "nodes" = some value ∧ listed value = jNodes

theorem NodesFile.unique {path : StdString} {jNodes others : List Json}
    (first : NodesFile env path jNodes) (second : NodesFile env path others) : jNodes = others := by
  obtain ⟨content, root, value, read, _, parsed, member, rfl⟩ := first
  obtain ⟨_, _, _, alsoRead, _, alsoParsed, alsoMember, rfl⟩ := second
  cases read.symm.trans alsoRead
  cases parsed.symm.trans alsoParsed
  cases member.symm.trans alsoMember
  rfl

/-- The text is parsed where it has entries, and the loop decides. -/
theorem parseConnectedJson_cases (text : StdString) :
    (∃ root value, env.json.parse text = some root ∧ root.member "nodes" = some value ∧
      parseConnectedJson env text ∅ = insertEndpoints env (listed value) ∅) ∨
    ((∀ root value, env.json.parse text = some root → root.member "nodes" ≠ some value) ∧
      ∃ halted, parseConnectedJson env text ∅ = (.error halted, ∅)) := by
  unfold parseConnectedJson
  cases parsed : env.json.parse text with
  | none => exact .inr ⟨fun _ _ => nofun, _, rfl⟩
  | some root =>
    cases member : root.member "nodes" with
    | none =>
      refine .inr ⟨?_, ?_⟩
      · intro other value same
        cases same
        rw [member]
        nofun
      · simp only [member]
        exact ⟨_, rfl⟩
    | some value =>
      refine .inl ⟨root, value, rfl, member, ?_⟩
      simp only [member]
      cases value <;> rfl

theorem loadP2pConnectedNodes_spec (config : GatewayConfig) :
    (∃ jNodes nodes, NodesFile env config.nodeFilePath jNodes ∧
      config.loadP2pConnectedNodes env = (.ok (), { config with connectedNodes := nodes }) ∧
      (∀ jNode ∈ jNodes, ∃ endpoint, Names env jNode endpoint) ∧
      ∀ endpoint, endpoint ∈ nodes ↔ ∃ jNode ∈ jNodes, Names env jNode endpoint) ∨
    (∃ halted, config.loadP2pConnectedNodes env = (.error halted, config) ∧
      ∀ jNodes, NodesFile env config.nodeFilePath jNodes →
        ∃ jNode ∈ jNodes, ∀ endpoint, ¬ Names env jNode endpoint) := by
  unfold loadP2pConnectedNodes
  cases read : env.readContentsToString config.nodeFilePath with
  | none =>
    refine .inr ⟨_, rfl, ?_⟩
    rintro jNodes ⟨content, _, _, present, _⟩
    cases read.symm.trans present
  | some content =>
    cases content with
    | nil =>
      refine .inr ⟨_, rfl, ?_⟩
      rintro jNodes ⟨content, _, _, present, filled, _⟩
      cases read.symm.trans present
      exact absurd rfl filled
    | cons first rest =>
      simp only
      rcases @parseConnectedJson_cases env (first :: rest) with
        ⟨root, value, parsed, member, ran⟩ | ⟨unlisted, halted, ran⟩
      · have file : NodesFile env config.nodeFilePath (listed value) :=
          ⟨_, root, value, read, List.cons_ne_nil _ _, parsed, member, rfl⟩
        rw [ran]
        rcases insertEndpoints_spec (listed value) (∅ : KeySet NodeIPEndpoint) with
          ⟨nodes, inserted, named, holds⟩ | ⟨halted, nodes, stopped, jNode, inside, unnamed⟩
        · rw [inserted]
          refine .inl ⟨listed value, nodes, file, rfl, named, fun endpoint => ?_⟩
          rw [holds]
          simp
        · rw [stopped]
          refine .inr ⟨halted, rfl, ?_⟩
          intro jNodes other
          rw [← file.unique other]
          exact ⟨jNode, inside, unnamed⟩
      · rw [ran]
        refine .inr ⟨halted, rfl, ?_⟩
        rintro jNodes ⟨content, root, value, present, _, parsed, member, _⟩
        cases read.symm.trans present
        exact absurd member (unlisted root value parsed)

end Loading

structure Usable (env : ConfigEnvironment) (configPath : StdString) (pt : PropertyTree)
    (jNodes : List Json) (pubKey : Bytes) : Prop where
  ini : env.readIni configPath = some pt
  port : isValidPort (getInt env pt "p2p.listen_port" 30300) = true
  files : ∀ file ∈ (configured env pt).certFiles, Readable env file
  nodes : NodesFile env (configured env pt).nodeFilePath jNodes
  named : ∀ jNode ∈ jNodes, ∃ endpoint, Names env jNode endpoint
  identity : ∃ content x509, env.readContentsToString (configured env pt).nodeCert = some content ∧
    env.readX509 content = some x509 ∧ x509.pubKey = some pubKey
  ssl : env.sslContext (configured env pt).certFiles = true

end GatewayConfig

namespace Service

variable {φ : Type}

/-- No label is written but the empty one. -/
theorem labelled_foldl_add (endpoints : List NodeIPEndpoint) (nodes : Table NodeIPEndpoint P2pID)
    (unlabelled : ∀ endpoint label, nodes.lookup endpoint = some label → label = [])
    (endpoint : NodeIPEndpoint) (p2pID : P2pID) :
    (endpoints.foldl (fun nodes endpoint => nodes.add endpoint []) nodes).lookup endpoint =
        some p2pID ↔
      (endpoint ∈ endpoints ∨ endpoint ∈ nodes) ∧ p2pID = [] := by
  induction endpoints generalizing nodes with
  | nil =>
    rw [List.foldl_nil, ← AList.lookup_isSome]
    constructor
    · intro found
      rw [found]
      exact ⟨.inr rfl, unlabelled endpoint p2pID found⟩
    · rintro ⟨present | present, rfl⟩
      · cases present
      · obtain ⟨label, found⟩ := Option.isSome_iff_exists.mp present
        rw [found, unlabelled endpoint label found]
  | cons first endpoints ih =>
    have still : ∀ other label, (nodes.add first []).lookup other = some label → label = [] := by
      intro other label found
      rw [Table.lookup_add] at found
      split at found
      · cases held : nodes.lookup first with
        | none =>
          rw [held] at found
          exact (Option.some.inj found).symm
        | some before =>
          rw [held] at found
          rw [← Option.some.inj found]
          exact unlabelled first before held
      · exact unlabelled other label found
    have added : endpoint ∈ nodes.add first [] ↔ endpoint = first ∨ endpoint ∈ nodes := by
      rw [← AList.lookup_isSome, ← AList.lookup_isSome, Table.lookup_add]
      by_cases same : endpoint = first
      · simp [same]
      · simp [same]
    rw [List.foldl_cons, ih _ still, added, List.mem_cons]
    tauto

theorem setStaticNodes_labelled (service : Service φ) (staticNodes : KeySet NodeIPEndpoint)
    (unknown : service.staticNodes = ∅) (endpoint : NodeIPEndpoint) (p2pID : P2pID) :
    (service.setStaticNodes staticNodes).Labelled endpoint p2pID ↔
      endpoint ∈ staticNodes ∧ p2pID = [] := by
  have folded := labelled_foldl_add staticNodes.keys ∅ (by simp) endpoint p2pID
  have start : (service.setStaticNodes staticNodes).staticNodes =
      staticNodes.keys.foldl (fun nodes endpoint => nodes.add endpoint []) ∅ := by
    unfold setStaticNodes
    rw [unknown]
  unfold Labelled
  rw [start, folded]
  simp [AList.mem_keys]

end Service

namespace GatewayFactory

open GatewayConfig

variable {env : ConfigEnvironment} (φ : Type)

theorem cert2PubHexHandler_true_iff {content : Option (List UInt8)} {pubHex out : StdString}
    {readX509 : List UInt8 → Option Certificate} {toHexString : Bytes → StdString} :
    cert2PubHexHandler toHexString content readX509 out = (true, pubHex) ↔
      ∃ text x509 pubKey, content = some text ∧ text ≠ [] ∧ readX509 text = some x509 ∧
        x509.pubKey = some pubKey ∧ pubHex = toHexString pubKey := by
  unfold cert2PubHexHandler
  split
  · simp
  · simp
  · rename_i text filled
    cases read : readX509 text with
    | none => simp [read]
    | some x509 =>
      cases key : x509.pubKey with
      | none => simp [read, key]
      | some pubKey =>
        have nonempty : text ≠ [] := filled
        simp [read, key, nonempty, eq_comm]

theorem nodeCert_mem (config : GatewayConfig) : config.nodeCert ∈ config.certFiles := by
  unfold GatewayConfig.nodeCert GatewayConfig.certFiles
  split
  · exact List.mem_cons_of_mem _ List.mem_cons_self
  · exact List.mem_cons_of_mem _ List.mem_cons_self

theorem buildGateway_usable {configPath : StdString} {pt : PropertyTree} {jNodes : List Json}
    {pubKey : Bytes} (usable : Usable env configPath pt jNodes pubKey) :
    ∃ nodes, buildGateway env φ configPath = .ok ({ configured env pt with connectedNodes := nodes },
        (fresh φ (env.toHexString pubKey)).setStaticNodes nodes) ∧
      ∀ endpoint, endpoint ∈ nodes ↔ ∃ jNode ∈ jNodes, Names env jNode endpoint := by
  have loaded : ({} : GatewayConfig).initConfig env configPath = (.ok (), configured env pt) :=
    initConfig_ok_iff.mpr ⟨pt, usable.ini, usable.port, usable.files, rfl⟩
  rcases loadP2pConnectedNodes_spec (configured env pt) with
    ⟨others, nodes, file, ran, _, holds⟩ | ⟨halted, _, unnamed⟩
  · have same := file.unique usable.nodes
    subst same
    refine ⟨nodes, ?_, holds⟩
    obtain ⟨content, x509, read, parsed, key⟩ := usable.identity
    obtain ⟨text, present, filled⟩ := usable.files _ (nodeCert_mem (configured env pt))
    cases read.symm.trans present
    have identity : cert2PubHexHandler env.toHexString
        (env.readContentsToString (configured env pt).nodeCert) env.readX509 [] =
          (true, env.toHexString pubKey) :=
      cert2PubHexHandler_true_iff.mpr ⟨content, x509, pubKey, read, filled, parsed, key, rfl⟩
    have built : buildService env φ { configured env pt with connectedNodes := nodes } =
        .ok ((fresh φ (env.toHexString pubKey)).setStaticNodes nodes) := by
      unfold buildService
      have cert : ({ configured env pt with connectedNodes := nodes } : GatewayConfig).nodeCert =
          (configured env pt).nodeCert := rfl
      have ssl : env.sslContext
          ({ configured env pt with connectedNodes := nodes } : GatewayConfig).certFiles = true :=
        usable.ssl
      rw [cert, identity]
      simp only [ssl, ↓reduceIte]
    unfold buildGateway
    simp only [loaded, ran, built]
    rfl
  · obtain ⟨jNode, member, none⟩ := unnamed jNodes usable.nodes
    obtain ⟨endpoint, named⟩ := usable.named jNode member
    exact absurd named (none endpoint)

theorem usable_of_built {configPath : StdString} {built : GatewayConfig × Service φ}
    (ran : buildGateway env φ configPath = .ok built) :
    ∃ pt jNodes pubKey, Usable env configPath pt jNodes pubKey := by
  unfold buildGateway at ran
  split at ran
  · cases ran
  rename_i config loaded
  obtain ⟨pt, ini, port, files, rfl⟩ := initConfig_ok_iff.mp loaded
  rcases loadP2pConnectedNodes_spec (configured env pt) with
    ⟨jNodes, nodes, file, found, named, _⟩ | ⟨halted, stopped, _⟩
  · rw [found] at ran
    unfold buildService at ran
    simp only at ran
    split at ran
    · cases ran
    rename_i pubHex identity
    obtain ⟨content, x509, pubKey, read, _, parsed, key, _⟩ :=
      cert2PubHexHandler_true_iff.mp identity
    split at ran
    · rename_i ssl
      exact ⟨pt, jNodes, pubKey, ini, port, files, file, named, ⟨content, x509, read, parsed, key⟩,
        ssl⟩
    · cases ran
  · rw [stopped] at ran
    cases ran

/-- A gateway is built from the configurations that are usable and from no other. It has no
    session, and its first heartbeat dials what the nodes file lists. -/
theorem buildGateway_dials (env : ConfigEnvironment) (configPath : StdString) :
    ((∃ built, buildGateway env φ configPath = .ok built) ↔
      ∃ pt jNodes pubKey, Usable env configPath pt jNodes pubKey) ∧
    ∀ pt jNodes pubKey config service, Usable env configPath pt jNodes pubKey →
      buildGateway env φ configPath = .ok (config, service) →
        service.Fresh ∧ service.nodeID = env.toHexString pubKey ∧
        (config.listenPort.toNat : Int) = getInt env pt "p2p.listen_port" 30300 ∧
        (service.nodeID ≠ [] → ∀ endpoint,
          endpoint ∈ ({ service with run := true } : Service φ).heartBeatConnects ↔
            ∃ jNode ∈ jNodes, Names env jNode endpoint) := by
  constructor
  · constructor
    · rintro ⟨built, ran⟩
      exact usable_of_built φ ran
    · rintro ⟨pt, jNodes, pubKey, usable⟩
      obtain ⟨nodes, ran, _⟩ := buildGateway_usable φ usable
      exact ⟨_, ran⟩
  · intro pt jNodes pubKey config service usable ran
    obtain ⟨nodes, made, holds⟩ := buildGateway_usable φ usable
    cases made.symm.trans ran
    refine ⟨⟨rfl, rfl, rfl⟩, rfl, ?_, ?_⟩
    · change ((configured env pt).listenPort.toNat : Int) = _
      have valid := usable.port
      unfold isValidPort at valid
      rw [configured_listenPort]
      exact (narrow_port (by grind) (by grind)).1
    · intro named endpoint
      have labelled := Service.setStaticNodes_labelled (fresh φ (env.toHexString pubKey)) nodes rfl
        endpoint
      rw [Service.mem_heartBeatConnects, ← holds]
      constructor
      · rintro ⟨_, p2pID, label, _⟩
        exact ((labelled p2pID).mp label).1
      · intro member
        refine ⟨rfl, [], (labelled []).mpr ⟨member, rfl⟩, Ne.symm named, ?_⟩
        rintro ⟨filled, _⟩
        exact filled rfl

def twoNodes : List Json :=
  [.string (asciiString "127.0.0.1:30355"), .string (asciiString "[::1]:30356")]

def nodesDocument : Json := .object [(asciiString "nodes", .array twoNodes)]

def defaultFiles : ConfigEnvironment where
  boost := readers
  json := .reading nodesDocument
  readBool _ := none
  readInt := castInt
  readIni path := if path = asciiString "config.ini" then some ∅ else none
  readContentsToString path :=
    if path = asciiString ".//nodes.json" then some (nodesDocument.compact ++ [10]) else some [45]
  currentPath := asciiString "/"
  diagnosticInformation _ := []
  readX509 _ := some ⟨some [2, 3], some false, [], []⟩
  toHexString := Host.lowerHex
  sslContext _ := true

theorem defaultFiles_dials :
    ∃ config service, buildGateway defaultFiles Nat (asciiString "config.ini") =
        .ok (config, service) ∧
      service.nodeID = asciiString "0203" ∧ config.listenPort = 30300 ∧
      (⟨"127.0.0.1", 30355⟩ : NodeIPEndpoint) ∈
        ({ service with run := true } : Service Nat).heartBeatConnects ∧
      (⟨"::1", 30356⟩ : NodeIPEndpoint) ∈
        ({ service with run := true } : Service Nat).heartBeatConnects := by
  have first : Names defaultFiles (.string (asciiString "127.0.0.1:30355"))
      ⟨"127.0.0.1", 30355⟩ := ⟨_, rfl, by decide +kernel⟩
  have second : Names defaultFiles (.string (asciiString "[::1]:30356")) ⟨"::1", 30356⟩ :=
    ⟨_, rfl, by decide +kernel⟩
  have usable : Usable defaultFiles (asciiString "config.ini") ∅ twoNodes [2, 3] := by
    refine ⟨rfl, by decide +kernel, ?_, ?_, ?_, ?_, rfl⟩
    · intro file member
      refine ⟨[45], ?_, List.cons_ne_nil _ _⟩
      revert file
      decide +kernel
    · exact ⟨nodesDocument.compact ++ [10], nodesDocument, .array twoNodes, by decide +kernel,
        by decide +kernel, if_pos rfl, rfl, rfl⟩
    · intro jNode member
      rcases List.mem_cons.mp member with rfl | member
      · exact ⟨_, first⟩
      · cases List.mem_singleton.mp member
        exact ⟨_, second⟩
    · exact ⟨[45], ⟨some [2, 3], some false, [], []⟩, by decide +kernel, rfl, rfl⟩
  obtain ⟨built, dials⟩ := buildGateway_dials Nat defaultFiles (asciiString "config.ini")
  obtain ⟨⟨config, service⟩, made⟩ := built.mpr ⟨_, _, _, usable⟩
  obtain ⟨_, nodeID, port, connects⟩ := dials _ _ _ _ _ usable made
  have named : service.nodeID = asciiString "0203" := nodeID.trans (by decide)
  have filled : service.nodeID ≠ [] := by
    rw [named]
    decide
  refine ⟨config, service, made, named, ?_, ?_, ?_⟩
  · have default : getInt defaultFiles ∅ "p2p.listen_port" 30300 = 30300 := rfl
    rw [default] at port
    apply UInt16.toNat_inj.mp
    exact Int.ofNat_inj.mp port
  · exact (connects filled _).mpr ⟨_, List.mem_cons_self, first⟩
  · exact (connects filled _).mpr ⟨_, List.mem_cons_of_mem _ List.mem_cons_self, second⟩

end GatewayFactory

end BcosGateway
