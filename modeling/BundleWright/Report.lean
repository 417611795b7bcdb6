import BundleWright.Assembly
import BundleWright.Datum
/-!
Requests, files, actions, plans and outcomes as data. A report holds every field; a summary holds
what the command line tells about a plan.
-/
namespace BundleWright

namespace Datum

def ofPath (p : Path) : Datum := .str p.text

def ofPaths (l : List Path) : Datum := .arr (l.map ofPath)

def ofPath? (p : Option Path) : Datum := ofOption (p.map ofPath)

def ofPair (p : String × String) : Datum := .arr [.str p.1, .str p.2]

end Datum

def NodeKey.toDatum (k : NodeKey) : Datum := .arr [.str k.name, .str k.variant]

namespace ModuleGraph

def nodeDatum (g : ModuleGraph) (id : NodeKey) : Datum := (g.keyOf id).toDatum

def edgeDatum (g : ModuleGraph) (e : Edge) : Datum :=
  .arr [g.nodeDatum e.parent, g.nodeDatum e.child, .str e.tag.word]

def variantDatum (g : ModuleGraph) (v : Variant) : Datum := .arr [g.nodeDatum v.node, .str v.name]

def obligationDatum (g : ModuleGraph) (o : Obligation) : Datum :=
  .arr [g.nodeDatum o.node, .str o.bundle]

end ModuleGraph

def Certificate.toDatum (c : Certificate) : Datum :=
  .obj [("pem", .ofPath c.pem), ("key", .ofPath c.key)]

def Target.toDatum (t : Target) : Datum :=
  .obj [("arch_type", .str t.arch), ("os", .str t.os), ("os_class", .str t.osClass.word),
    ("multilib", .str t.multilib), ("native", .bool t.native), ("abis", .ofStrings t.abis),
    ("variant_name", .str t.variantName)]

def Request.toDatum (r : Request) : Datum :=
  .obj [("name", .str r.name), ("tag", .str r.tag.word),
    ("variations", .arr (r.selector.map .ofPair)),
    ("bucket", .ofString? (r.bucket.map Bucket.word)), ("arch", .ofString? r.arch?)]

def PropertyError.toDatum (e : PropertyError) : Datum :=
  .obj [("bundle", .str e.bundle), ("property", .str e.property), ("message", .str e.message),
    ("text", .str e.text)]

def PropertyError.listDatum (l : List PropertyError) : Datum := .arr (l.map PropertyError.toDatum)

namespace PackagedFile

def report (f : PackagedFile) : Datum :=
  .obj [("built_file", .ofPath f.builtFile), ("module_name", .str f.moduleName),
    ("install_dir", .str f.installDir), ("file_class", .str f.fileClass.word),
    ("symlinks", .ofStrings f.symlinks), ("make_class", .str f.fileClass.makeClass),
    ("path_in_bundle", .str f.pathInBundle), ("owner", .ofOption (f.owner.map NodeKey.toDatum))]

def reports (l : List PackagedFile) : Datum := .arr (l.map report)

def summary (f : PackagedFile) : Datum :=
  .obj [("module_name", .str f.moduleName), ("built_file", .ofPath f.builtFile),
    ("install_dir", .str f.installDir), ("class", .str f.fileClass.word),
    ("symlinks", .ofStrings f.symlinks)]

end PackagedFile

namespace Action

def workFields (w : Work) : Fields :=
  let fields (argv : List String) (env : Environment) (content : Datum) (copies : List FileCopy)
      (links : List FileLink) : Fields :=
    [("command", .ofStrings argv), ("env", .obj (env.map fun v => (v.1, Datum.str v.2))),
      ("content", content),
      ("copies", .arr (copies.map fun c => .arr [.ofPath c.source, .ofPath c.dest])),
      ("symlinks", .arr (links.map fun l => .arr [.str l.target, .ofPath l.link]))]
  match w with
  | .stage copies links => fields [] [] .null copies links
  | .write content => fields [] [] (.str content) [] []
  | .command argv env => fields argv env .null [] []
  | .copy => fields [] [] .null [] []

def report (a : Action) : Datum :=
  let fields : Fields := [("kind", .str a.work.word), ("description", .str a.description),
    ("outputs", .ofPaths a.outputs), ("inputs", .ofPaths a.inputs),
    ("command_line", .ofString? a.commandLine?), ("install", .bool a.install)]
  .obj (fields ++ workFields a.work)

def reports (l : List Action) : Datum := .arr (l.map report)

def summary (a : Action) : Datum :=
  let command : Datum := match a.work with
    | .command [] _ => .null
    | .command argv _ => .ofStrings argv
    | _ => .null
  .obj [("kind", .str a.work.word), ("description", .str a.description),
    ("outputs", .ofPaths a.outputs), ("command", command), ("install", .bool a.install)]

end Action

def Collection.report (c : Collection) : Datum :=
  .obj [("bundle", .str c.bundle), ("files", PackagedFile.reports c.files),
    ("key_file", .ofPath c.keyFile), ("public_key_file", .ofPath? c.publicKeyFile),
    ("certificate", .ofOption (c.certificate.map Certificate.toDatum)),
    ("errors", PropertyError.listDatum c.errors)]

namespace Plan

def report (p : Plan) : Datum :=
  .obj [("bundle", .str p.bundle), ("files", PackagedFile.reports p.files),
    ("flattened_files", PackagedFile.reports p.flattenedFiles),
    ("actions", Action.reports p.actions),
    ("output_files", .arr (p.outputs.map fun o => .arr [.str o.1.word, .ofPath o.2])),
    ("bundle_module_file", .ofPath? p.bundleModule), ("flattened", .bool p.flattened),
    ("install_dir", .ofPath p.installDir), ("errors", PropertyError.listDatum p.errors),
    ("srcs", .ofPaths p.sources), ("installed_files", .ofPaths p.installedFiles)]

def summary (p : Plan) : Fields :=
  [("flattened", .bool p.flattened), ("files", .arr (p.files.map PackagedFile.summary)),
    ("outputs", .obj (p.outputs.map fun o => (o.1.word, .ofPath o.2))),
    ("bundle_module_file", .ofPath? p.bundleModule),
    ("actions", .arr (p.actions.map Action.summary))]

end Plan

def BundleError.summary (e : BundleError) : Datum :=
  .obj [("code", .str e.code), ("message", .str e.message)]

def Outcome.summary (o : Outcome) : Datum :=
  let fields : Fields := [("bundle", .str o.bundle.name), ("ok", .bool o.ok),
    ("fatal", .ofOption (o.fatal?.map BundleError.summary)),
    ("errors", .ofStrings (o.errors.map PropertyError.text))]
  .obj (fields ++ (o.plan?.map Plan.summary).getD [])

end BundleWright
