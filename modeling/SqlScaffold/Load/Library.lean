import SqlScaffold.Text.Lines

/-!
Modules that are there besides those of the models. Some of them are in use from the start, so
that no module of that name is ever looked for; the others give way to a model module of the same
name.
-/

namespace SqlScaffold.Load

open Text

def namesIn (lines : List String) : List String := lines.flatMap (splitAtChar ' ')

def residentModules : List String :=
  namesIn
    [
      "__future__ __hello__ __main__ __phello__ __phello__.spam _abc _ast _bisect _blake2 _bz2",
      "_codecs _collections _collections_abc _compat_pickle _compression _csv _datetime _decimal",
      "_distutils_hack _elementtree _frozen_importlib _frozen_importlib_external _functools",
      "_hashlib _heapq _imp _io _json _locale _lzma _md5 _opcode _operator _pickle",
      "_posixsubprocess _queue _random _sha1 _sha256 _sha3 _sha512 _signal _sitebuiltins _socket",
      "_sre _ssl _stat _statistics _string _struct _symtable _thread _tracemalloc _typing _uuid",
      "_warnings _weakref _weakrefset abc argparse array ast atexit base64 binascii bisect",
      "builtins bz2 calendar cmath codecs collections colorsys concurrent configparser",
      "contextlib contextvars copy copyreg dataclasses datetime decimal difflib dis email",
      "encodings enum errno faulthandler fcntl fnmatch fractions functools gc genericpath",
      "getpass gettext grp hashlib heapq hmac html http importlib inspect io ipaddress itertools",
      "json keyword linecache locale logging lzma marshal math mimetypes ntpath numbers opcode",
      "operator os pathlib pickle pkgutil platform posix posixpath pprint pwd pyexpat queue",
      "quopri random re reprlib runpy select selectors shutil signal site sitecustomize socket",
      "spwd ssl stat string stringprep struct subprocess sys syslog tempfile termios textwrap",
      "threading time token tokenize traceback types typing unicodedata urllib uuid warnings",
      "weakref xxsubtype zipfile zipimport zlib"
    ]

def furtherModules : List String :=
  namesIn
    [
      "_aix_support _asyncio _bootsubprocess _codecs_cn _codecs_hk _codecs_iso2022 _codecs_jp",
      "_codecs_kr _codecs_tw _contextvars _crypt _ctypes _curses _curses_panel _dbm _lsprof",
      "_markupbase _multibytecodec _multiprocessing _osx_support _posixshmem _py_abc _pydecimal",
      "_pyio _sqlite3 _strptime _threading_local _xxsubinterpreters _zoneinfo aifc antigravity",
      "asynchat asyncio asyncio.base_events asyncio.base_futures asyncio.base_subprocess",
      "asyncio.base_tasks asyncio.constants asyncio.coroutines asyncio.events asyncio.exceptions",
      "asyncio.format_helpers asyncio.futures asyncio.locks asyncio.log asyncio.mixins",
      "asyncio.proactor_events asyncio.protocols asyncio.queues asyncio.runners",
      "asyncio.selector_events asyncio.sslproto asyncio.staggered asyncio.streams",
      "asyncio.subprocess asyncio.taskgroups asyncio.tasks asyncio.threads asyncio.timeouts",
      "asyncio.transports asyncio.trsock asyncio.unix_events asyncore audioop bdb cProfile cgi",
      "cgitb chunk cmd code codeop collections.abc compileall concurrent.futures",
      "concurrent.futures.process concurrent.futures.thread crypt csv ctypes ctypes.util",
      "ctypes.wintypes curses curses.ascii curses.has_key curses.panel curses.textpad dbm",
      "doctest email.base64mime email.charset email.contentmanager email.encoders email.errors",
      "email.feedparser email.generator email.header email.headerregistry email.iterators",
      "email.message email.mime email.mime.application email.mime.audio email.mime.base",
      "email.mime.image email.mime.message email.mime.multipart email.mime.nonmultipart",
      "email.mime.text email.parser email.policy email.quoprimime email.utils encodings.aliases",
      "encodings.utf_8 filecmp fileinput ftplib getopt glob graphlib gzip html.entities",
      "html.parser http.client http.cookiejar http.cookies http.server imaplib imghdr imp",
      "importlib.abc importlib.machinery importlib.metadata importlib.readers",
      "importlib.resources importlib.resources.abc importlib.resources.readers",
      "importlib.resources.simple importlib.simple importlib.util json.decoder json.encoder",
      "json.scanner json.tool logging.config logging.handlers mailbox mailcap markdown_it mdurl",
      "mmap modulefinder multiprocessing multiprocessing.connection multiprocessing.context",
      "multiprocessing.dummy multiprocessing.dummy.connection multiprocessing.forkserver",
      "multiprocessing.heap multiprocessing.managers multiprocessing.pool",
      "multiprocessing.popen_fork multiprocessing.popen_forkserver",
      "multiprocessing.popen_spawn_posix multiprocessing.process multiprocessing.queues",
      "multiprocessing.reduction multiprocessing.resource_sharer",
      "multiprocessing.resource_tracker multiprocessing.shared_memory",
      "multiprocessing.sharedctypes multiprocessing.spawn multiprocessing.synchronize",
      "multiprocessing.util netrc nis nntplib nturl2path optparse os.path pdb pickletools pip",
      "pipes plistlib poplib profile pstats pty py_compile pyclbr pydoc readline resource",
      "rlcompleter sched secrets shelve shlex smtpd smtplib sndhdr socketserver sqlite3",
      "sqlite3.dbapi2 sqlite3.dump sre_compile sre_constants sre_parse statistics sunau symtable",
      "sysconfig tabnanny tarfile telnetlib this timeit tomllib trace tracemalloc tty unittest",
      "unittest.async_case unittest.case unittest.loader unittest.main unittest.mock",
      "unittest.result unittest.runner unittest.signals unittest.suite unittest.util",
      "urllib.error urllib.parse urllib.request urllib.response urllib.robotparser uu venv wave",
      "webbrowser wsgiref wsgiref.handlers wsgiref.headers wsgiref.simple_server wsgiref.types",
      "wsgiref.util wsgiref.validate xdrlib xml xml.dom xml.dom.NodeFilter xml.dom.domreg",
      "xml.dom.expatbuilder xml.dom.minicompat xml.dom.minidom xml.dom.pulldom",
      "xml.dom.xmlbuilder xml.etree xml.etree.ElementInclude xml.etree.ElementPath",
      "xml.etree.ElementTree xml.etree.cElementTree xml.parsers xml.parsers.expat xml.sax",
      "xml.sax.expatreader xml.sax.handler xml.sax.saxutils xml.sax.xmlreader xmlrpc",
      "xmlrpc.client xmlrpc.server zipapp zoneinfo"
    ]

def programModules : List String :=
  namesIn
    [
      "certifi certifi.__main__ certifi.core charset_normalizer charset_normalizer.__main__",
      "charset_normalizer.api charset_normalizer.cd charset_normalizer.cli",
      "charset_normalizer.constant charset_normalizer.legacy charset_normalizer.md",
      "charset_normalizer.models charset_normalizer.utils charset_normalizer.version dsl_assist",
      "dsl_assist.__main__ dsl_assist.annotations dsl_assist.codegen",
      "dsl_assist.codegen.cli_integration dsl_assist.codegen.core",
      "dsl_assist.codegen.core.bindings dsl_assist.codegen.core.config",
      "dsl_assist.codegen.core.generator dsl_assist.codegen.core.naming",
      "dsl_assist.codegen.core.scanner dsl_assist.codegen.core.schema",
      "dsl_assist.codegen.core.templates dsl_assist.codegen.core.types",
      "dsl_assist.codegen.emitter dsl_assist.codegen.languages dsl_assist.codegen.languages.java",
      "dsl_assist.codegen.languages.java.descriptor dsl_assist.codegen.languages.java.generator",
      "dsl_assist.codegen.languages.java.mapper dsl_assist.codegen.languages.java.naming",
      "dsl_assist.codegen.languages.java.types dsl_assist.logging_config dsl_assist.utils idna",
      "idna.codec idna.compat idna.core idna.idnadata idna.intranges idna.package_data",
      "idna.uts46data jinja2 jinja2._identifier jinja2.async_utils jinja2.bccache",
      "jinja2.compiler jinja2.constants jinja2.debug jinja2.defaults jinja2.environment",
      "jinja2.exceptions jinja2.ext jinja2.filters jinja2.idtracking jinja2.lexer jinja2.loaders",
      "jinja2.meta jinja2.nativetypes jinja2.nodes jinja2.optimizer jinja2.parser jinja2.runtime",
      "jinja2.sandbox jinja2.tests jinja2.utils jinja2.visitor markupsafe markupsafe._native",
      "markupsafe._speedups pygments pygments.__main__ pygments.cmdline pygments.console",
      "pygments.filter pygments.filters pygments.formatter pygments.formatters pygments.lexer",
      "pygments.lexers pygments.modeline pygments.plugin pygments.regexopt pygments.scanner",
      "pygments.sphinxext pygments.style pygments.styles pygments.token pygments.unistring",
      "pygments.util requests requests.__version__ requests._internal_utils requests.adapters",
      "requests.api requests.auth requests.certs requests.compat requests.cookies",
      "requests.exceptions requests.help requests.hooks requests.models requests.packages",
      "requests.sessions requests.status_codes requests.structures requests.utils rich",
      "rich.__main__ rich._cell_widths rich._emoji_codes rich._emoji_replace rich._export_format",
      "rich._extension rich._fileno rich._inspect rich._log_render rich._loop rich._null_file",
      "rich._palettes rich._pick rich._ratio rich._spinners rich._stack rich._timer",
      "rich._win32_console rich._windows rich._windows_renderer rich._wrap rich.abc rich.align",
      "rich.ansi rich.bar rich.box rich.cells rich.color rich.color_triplet rich.columns",
      "rich.console rich.constrain rich.containers rich.control rich.default_styles",
      "rich.diagnose rich.emoji rich.errors rich.file_proxy rich.filesize rich.highlighter",
      "rich.json rich.jupyter rich.layout rich.live rich.live_render rich.logging rich.markdown",
      "rich.markup rich.measure rich.padding rich.pager rich.palette rich.panel rich.pretty",
      "rich.progress rich.progress_bar rich.prompt rich.protocol rich.region rich.repr rich.rule",
      "rich.scope rich.screen rich.segment rich.spinner rich.status rich.style rich.styled",
      "rich.syntax rich.table rich.terminal_theme rich.text rich.theme rich.themes",
      "rich.traceback rich.tree urllib3 urllib3._base_connection urllib3._collections",
      "urllib3._request_methods urllib3._version urllib3.connection urllib3.connectionpool",
      "urllib3.contrib urllib3.contrib.emscripten urllib3.contrib.pyopenssl",
      "urllib3.contrib.socks urllib3.exceptions urllib3.fields urllib3.filepost urllib3.http2",
      "urllib3.http2.connection urllib3.http2.probe urllib3.poolmanager urllib3.response",
      "urllib3.util urllib3.util.connection urllib3.util.proxy urllib3.util.request",
      "urllib3.util.response urllib3.util.retry urllib3.util.ssl_",
      "urllib3.util.ssl_match_hostname urllib3.util.ssltransport urllib3.util.timeout",
      "urllib3.util.url urllib3.util.util urllib3.util.wait"
    ]

def openPackages : List String := ["pygments.formatters", "pygments.lexers", "pygments.styles"]

def placelessModules : List String :=
  namesIn
    [
      "_abc _ast _bisect _blake2 _codecs _collections _csv _datetime _elementtree _functools",
      "_heapq _imp _io _locale _md5 _operator _pickle _posixsubprocess _random _sha1 _sha256",
      "_sha3 _sha512 _signal _socket _sre _stat _statistics _string _struct _symtable _thread",
      "_tracemalloc _typing _warnings _weakref array atexit binascii builtins cmath errno",
      "faulthandler fcntl gc grp itertools marshal math posix pwd pyexpat select spwd sys syslog",
      "time unicodedata xxsubtype zlib"
    ]

def outermost (name : String) : String := ((splitAtChar '.' name).head?).getD ""

def isOpen (name : String) : Bool :=
  openPackages.any fun package => startsWith (package ++ ".") name

def isInLibrary (name : String) : Bool :=
  residentModules.contains name || furtherModules.contains name || programModules.contains name ||
    isOpen name

def isResident (name : String) : Bool :=
  residentModules.contains (outermost name) || programModules.contains (outermost name)

def isLibraryPackage (name : String) : Bool :=
  let inside := startsWith (name ++ ".")
  openPackages.contains name || residentModules.any inside || furtherModules.any inside ||
    programModules.any inside

end SqlScaffold.Load
