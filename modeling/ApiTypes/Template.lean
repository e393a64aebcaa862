/-
  The texts of the generated files.

  * `commonFile` is the same for all documents;
  * `typeFile` holds the code of one declaration under the imports that it needs;
  * `constantsFile` holds the tree of URLs and a helper that fills them;
  * `indexFile` exports all the others.
-/
import ApiTypes.Generation
import ApiTypes.Json.Display
import ApiTypes.ModulePath

namespace ApiTypes.Template

/-- The file of types that every client shares. -/
def commonFile : String :=
  Text.join "\n" [
    "export type HttpMethod = 'GET' | 'POST' | 'PUT' | 'PATCH' | 'DELETE' | 'HEAD' | 'OPTIONS';",
    "",
    "export interface RequestConfig \x7b",
    "  method: HttpMethod;",
    "  path: string;",
    "  pathParams?: Record<string, string | number>;",
    "  queryParams?: Record<string, string | number | boolean | (string | number | boolean)[]>;",
    "  headers?: Record<string, string>;",
    "  body?: unknown;",
    "\x7d",
    ""]

/-- An import of one type from a module. -/
def importLine (name path : String) : String :=
  "import type \x7b " ++ name ++ " \x7d from '" ++ path ++ "';\n"

/-- The file of a declaration: its imports, an empty line if there are any, and its
code. -/
def typeFile (imports : List (String × String)) (code : String) : String :=
  String.join (imports.map fun (name, path) => importLine name path) ++
    (if imports.isEmpty then "" else "\n") ++ code ++ "\n"

/-- The file of URL constants, with the title of the API in its comment. -/
def constantsFile (title tree : String) : String :=
  Text.join "\n" [
    "/**",
    " * API endpoint URL constants, organized by folder.",
    " *",
    " * Generated from "] ++ title ++ Text.join "\n" [
    ". Do not edit by hand.",
    " */",
    "",
    "export const apiEndpoints = \x7b",
    ""] ++ tree ++ Text.join "\n" [
    "",
    "\x7d as const;",
    "",
    "export type ApiEndpoints = typeof apiEndpoints;",
    "",
    "/**",
    " * Replaces \x7bparam\x7d placeholders in a URL template with values.",
    " * Throws if any placeholder is left unresolved.",
    " */",
    "export function buildUrl<T extends Record<string, string | number>>(",
    "  urlTemplate: string,",
    "  params: T",
    "): string \x7b",
    "  let url = urlTemplate;",
    "  for (const [key, value] of Object.entries(params)) \x7b",
    "    url = url.split('\x7b' + key + '\x7d').join(String(value));",
    "  \x7d",
    "",
    "  const remaining = url.match(/\\\x7b[^\x7d]+\\\x7d/g);",
    "  if (remaining && remaining.length > 0) \x7b",
    "    const missing = remaining.map((p) => p.slice(1, -1)).join(', ');",
    "    throw new Error(",
    "      'Missing required path parameters: ' + missing + '. ' +",
    "      'Provided params: ' + Object.keys(params).join(', ')",
    "    );",
    "  \x7d",
    "  return url;",
    "\x7d",
    ""]

/-- The index: exports of the common types, of each schema, of each endpoint's
module, and of the URL constants if there are any. -/
def indexFile (schemas modules : List String) (constants : Bool) : String :=
  "// Common types\nexport * from './common/Http';\n\n// Schema types\n" ++
    String.join (schemas.map fun name =>
      "export type \x7b " ++ name ++ " \x7d from './schemas/" ++ name ++ "';\n") ++
    "\n// Endpoint types\n" ++
    String.join (modules.map fun path => "export * from './" ++ path ++ "';\n") ++
    (if constants then "\n// Endpoint URL constants\nexport * from './api';\n" else "")

end ApiTypes.Template
