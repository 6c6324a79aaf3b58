import SdkGen.Go.Parse
import SdkGen.Extraction.Records
import SdkGen.Extraction.RouteTable

/-!
# Extraction

`Extraction.ofFile` makes the model of a source file: its records, the endpoints of its handlers,
and what is odd about them. `extract` does so for a text.
-/

namespace SdkGen

open Go (SourceFile)

/-- The functions that are named like handlers. -/
def handlersOf (file : SourceFile) : List String :=
  file.functions.filter fun name =>
    (Occurrence.dropPrefix handlerPrefix.toList name.toList).isSome

/-- The endpoints of a file's handlers, in source order. -/
def endpointsOf (routes : RouteTable) (file : SourceFile) : List Endpoint :=
  (handlersOf file).filterMap routes.endpoint?

/-- The handlers without a route, in source order. -/
def unresolvedHandlers (routes : RouteTable) (file : SourceFile) : List Diagnostic :=
  ((handlersOf file).filter fun h => (routes.endpoint? h).isNone).map .unresolvedHandler

/-- Names without repetition, in increasing order. -/
def sortedNames (names : List String) : List String :=
  (Keyed.ofList (names.map fun n => (n, ()))).map Prod.fst

/-- Whether some record has the name. -/
def isRecordName (records : List Record) (name : String) : Bool :=
  records.any fun r => r.name = name

/-- The types that endpoints refer to and that are no records, each once, in increasing order. -/
def unknownTypes (records : List Record) (endpoints : List Endpoint) : List String :=
  sortedNames ((endpoints.flatMap Endpoint.importNames).filter fun n => !isRecordName records n)

/-- The model of a source file. -/
def Extraction.ofFile (routes : RouteTable) (file : SourceFile) : Extraction where
  package := file.package
  records := recordsOf file
  endpoints := endpointsOf routes file
  diagnostics := fieldDiagnostics file ++ unresolvedHandlers routes file ++
    (unknownTypes (recordsOf file) (endpointsOf routes file)).map .unknownImport

/-- The error of a text that is no source file. -/
def Go.ParseError.toError (e : Go.ParseError) : Error :=
  .parse e.pos.line e.pos.column e.message

/-- The model of a source text. -/
def extract (routes : RouteTable) (source : String) : Except Go.ParseError Extraction :=
  (Go.parse source).map (Extraction.ofFile routes)

end SdkGen
