/-!
Members of modules of the packages that the program builds on.
-/

namespace SqlScaffold.Load

def packageMemberData : List (String × List String) :=
  [ ("jinja2",
      ["class|BaseLoader=jinja2.loaders:BaseLoader",
        "class|BytecodeCache=jinja2.bccache:BytecodeCache",
        "class|ChainableUndefined=jinja2.runtime:ChainableUndefined",
        "class|ChoiceLoader=jinja2.loaders:ChoiceLoader",
        "class|DebugUndefined=jinja2.runtime:DebugUndefined",
        "class|DictLoader=jinja2.loaders:DictLoader",
        "class|Environment=jinja2.environment:Environment",
        "class|FileSystemBytecodeCache=jinja2.bccache:FileSystemBytecodeCache",
        "class|FileSystemLoader=jinja2.loaders:FileSystemLoader",
        "class|FunctionLoader=jinja2.loaders:FunctionLoader",
        "class|MemcachedBytecodeCache=jinja2.bccache:MemcachedBytecodeCache",
        "class|ModuleLoader=jinja2.loaders:ModuleLoader",
        "class|PackageLoader=jinja2.loaders:PackageLoader",
        "class|PrefixLoader=jinja2.loaders:PrefixLoader",
        "class|StrictUndefined=jinja2.runtime:StrictUndefined",
        "class|Template=jinja2.environment:Template",
        "class|TemplateAssertionError=jinja2.exceptions:TemplateAssertionError",
        "class|TemplateSyntaxError=jinja2.exceptions:TemplateSyntaxError",
        "class|TemplatesNotFound=jinja2.exceptions:TemplatesNotFound",
        "class|Undefined=jinja2.runtime:Undefined",
        "exception|TemplateError=jinja2.exceptions:TemplateError",
        "exception|TemplateNotFound=jinja2.exceptions:TemplateNotFound",
        "exception|TemplateRuntimeError=jinja2.exceptions:TemplateRuntimeError",
        "exception|UndefinedError=jinja2.exceptions:UndefinedError",
        "function|clear_caches is_undefined make_logging_undefined pass_context",
        "function|pass_environment pass_eval_context select_autoescape",
        "of str|__version__"]),
    ("requests",
      ["class|JSONDecodeError=requests.exceptions:JSONDecodeError",
        "class|NullHandler=logging:NullHandler",
        "class|PreparedRequest=requests.models:PreparedRequest",
        "class|Request=requests.models:Request Response=requests.models:Response",
        "class|Session=requests.sessions:Session",
        "exception|ConnectTimeout=requests.exceptions:ConnectTimeout",
        "exception|ConnectionError=requests.exceptions:ConnectionError",
        "exception|DependencyWarning=urllib3.exceptions:DependencyWarning",
        "exception|FileModeWarning=requests.exceptions:FileModeWarning",
        "exception|HTTPError=requests.exceptions:HTTPError",
        "exception|ReadTimeout=requests.exceptions:ReadTimeout",
        "exception|RequestException=requests.exceptions:RequestException",
        "exception|RequestsDependencyWarning=requests.exceptions:RequestsDependencyWarning",
        "exception|Timeout=requests.exceptions:Timeout",
        "exception|TooManyRedirects=requests.exceptions:TooManyRedirects",
        "exception|URLRequired=requests.exceptions:URLRequired",
        "function|check_compatibility delete get head options patch post put request",
        "function|session",
        "module|adapters=requests.adapters api=requests.api auth=requests.auth",
        "module|certs=requests.certs compat=requests.compat cookies=requests.cookies",
        "module|exceptions=requests.exceptions hooks=requests.hooks logging",
        "module|models=requests.models packages=requests.packages",
        "module|sessions=requests.sessions status_codes=requests.status_codes",
        "module|structures=requests.structures urllib3 utils=requests.utils warnings",
        "of LookupDict|codes",
        "of NoneType|chardet_version charset_normalizer_version",
        "of bool|WINDOWS",
        "of int|__build__",
        "of str|__author__ __author_email__ __cake__ __copyright__ __description__",
        "of str|__license__ __title__ __url__ __version__"]),
    ("requests.adapters",
      ["class|BaseAdapter CaseInsensitiveDict=requests.structures:CaseInsensitiveDict",
        "class|ClosedPoolError=urllib3.exceptions:ClosedPoolError HTTPAdapter",
        "class|MaxRetryError=urllib3.exceptions:MaxRetryError",
        "class|NewConnectionError=urllib3.exceptions:NewConnectionError",
        "class|PoolManager=urllib3.poolmanager:PoolManager",
        "class|ReadTimeoutError=urllib3.exceptions:ReadTimeoutError",
        "class|Response=requests.models:Response Retry=urllib3.util.retry:Retry",
        "class|TimeoutSauce=urllib3.util.timeout:Timeout",
        "exception|ConnectTimeout=requests.exceptions:ConnectTimeout",
        "exception|ConnectTimeoutError=urllib3.exceptions:ConnectTimeoutError",
        "exception|ConnectionError=requests.exceptions:ConnectionError",
        "exception|InvalidHeader=requests.exceptions:InvalidHeader",
        "exception|InvalidProxyURL=requests.exceptions:InvalidProxyURL",
        "exception|InvalidSchema=requests.exceptions:InvalidSchema",
        "exception|InvalidURL=requests.exceptions:InvalidURL",
        "exception|LocationValueError=urllib3.exceptions:LocationValueError",
        "exception|ProtocolError=urllib3.exceptions:ProtocolError",
        "exception|ProxyError=requests.exceptions:ProxyError",
        "exception|ReadTimeout=requests.exceptions:ReadTimeout",
        "exception|ResponseError=urllib3.exceptions:ResponseError",
        "exception|RetryError=requests.exceptions:RetryError",
        "exception|SSLError=requests.exceptions:SSLError",
        "function|SOCKSProxyManager create_urllib3_context extract_cookies_to_jar",
        "function|extract_zipped_paths get_auth_from_url get_encoding_from_headers",
        "function|parse_url prepend_scheme_if_needed proxy_from_url select_proxy",
        "function|urldefragauth urlparse",
        "module|os socket ssl typing warnings",
        "of NoneType|DEFAULT_POOL_TIMEOUT",
        "of bool|DEFAULT_POOLBLOCK",
        "of int|DEFAULT_POOLSIZE DEFAULT_RETRIES",
        "of str|DEFAULT_CA_BUNDLE_PATH",
        "of tuple|basestring"]),
    ("requests.api",
      ["function|delete get head options patch post put request",
        "module|sessions=requests.sessions"]),
    ("requests.auth",
      ["class|AuthBase HTTPBasicAuth HTTPDigestAuth HTTPProxyAuth str=builtins:str",
        "function|b64encode extract_cookies_to_jar parse_dict_header to_native_string",
        "function|urlparse",
        "module|hashlib os re threading time warnings",
        "of str|CONTENT_TYPE_FORM_URLENCODED CONTENT_TYPE_MULTI_PART",
        "of tuple|basestring"]),
    ("requests.certs",
      ["function|where",
        "module|os"]),
    ("requests.cookies",
      ["class|MockRequest MockResponse Morsel=http.cookies:Morsel",
        "class|MutableMapping=collections.abc:MutableMapping RequestsCookieJar",
        "exception|CookieConflictError",
        "function|cookiejar_from_dict create_cookie extract_cookies_to_jar",
        "function|get_cookie_header merge_cookies morsel_to_cookie remove_cookie_by_name",
        "function|to_native_string urlparse urlunparse",
        "module|calendar cookielib=http.cookiejar copy threading time"]),
    ("requests.exceptions",
      ["class|CompatJSONDecodeError=json.decoder:JSONDecodeError JSONDecodeError",
        "exception|BaseHTTPError=urllib3.exceptions:HTTPError ChunkedEncodingError",
        "exception|ConnectTimeout ConnectionError ContentDecodingError FileModeWarning",
        "exception|HTTPError InvalidHeader InvalidJSONError InvalidProxyURL InvalidSchema",
        "exception|InvalidURL MissingSchema ProxyError ReadTimeout RequestException",
        "exception|RequestsDependencyWarning RequestsWarning RetryError SSLError",
        "exception|StreamConsumedError Timeout TooManyRedirects URLRequired",
        "exception|UnrewindableBodyError"]),
    ("requests.hooks",
      ["function|default_hooks dispatch_hook",
        "of list|HOOKS"]),
    ("requests.models",
      ["callable|urlsplit",
        "class|Callable=collections.abc:Callable",
        "class|CaseInsensitiveDict=requests.structures:CaseInsensitiveDict",
        "class|HTTPBasicAuth=requests.auth:HTTPBasicAuth",
        "class|JSONDecodeError=json.decoder:JSONDecodeError",
        "class|LocationParseError=urllib3.exceptions:LocationParseError",
        "class|Mapping=collections.abc:Mapping PreparedRequest",
        "class|ReadTimeoutError=urllib3.exceptions:ReadTimeoutError Request",
        "class|RequestEncodingMixin RequestField=urllib3.fields:RequestField",
        "class|RequestHooksMixin",
        "class|RequestsJSONDecodeError=requests.exceptions:JSONDecodeError Response",
        "class|builtin_str=builtins:str",
        "exception|ChunkedEncodingError=requests.exceptions:ChunkedEncodingError",
        "exception|ConnectionError=requests.exceptions:ConnectionError",
        "exception|ContentDecodingError=requests.exceptions:ContentDecodingError",
        "exception|DecodeError=urllib3.exceptions:DecodeError",
        "exception|HTTPError=requests.exceptions:HTTPError",
        "exception|InvalidJSONError=requests.exceptions:InvalidJSONError",
        "exception|InvalidURL=requests.exceptions:InvalidURL",
        "exception|MissingSchema=requests.exceptions:MissingSchema",
        "exception|ProtocolError=urllib3.exceptions:ProtocolError",
        "exception|RequestsSSLError=requests.exceptions:SSLError",
        "exception|SSLError=urllib3.exceptions:SSLError",
        "exception|StreamConsumedError=requests.exceptions:StreamConsumedError",
        "exception|UnsupportedOperation=io:UnsupportedOperation",
        "function|check_header_validity cookiejar_from_dict default_hooks",
        "function|encode_multipart_formdata get_auth_from_url get_cookie_header",
        "function|guess_filename guess_json_utf iter_slices parse_header_links parse_url",
        "function|requote_uri stream_decode_response_unicode super_len to_key_val_list",
        "function|to_native_string unicode_is_ascii urlencode urlunparse",
        "module|complexjson=json cookielib=http.cookiejar datetime encodings",
        "of LookupDict|codes",
        "of NoneType|chardet",
        "of int|CONTENT_CHUNK_SIZE DEFAULT_REDIRECT_LIMIT ITER_CHUNK_SIZE",
        "of tuple|REDIRECT_STATI basestring"]),
    ("requests.sessions",
      ["builtin|preferred_clock",
        "class|CaseInsensitiveDict=requests.structures:CaseInsensitiveDict",
        "class|HTTPAdapter=requests.adapters:HTTPAdapter Mapping=collections.abc:Mapping",
        "class|OrderedDict=collections:OrderedDict",
        "class|PreparedRequest=requests.models:PreparedRequest",
        "class|Request=requests.models:Request",
        "class|RequestsCookieJar=requests.cookies:RequestsCookieJar Session",
        "class|SessionRedirectMixin timedelta=datetime:timedelta",
        "exception|ChunkedEncodingError=requests.exceptions:ChunkedEncodingError",
        "exception|ContentDecodingError=requests.exceptions:ContentDecodingError",
        "exception|InvalidSchema=requests.exceptions:InvalidSchema",
        "exception|TooManyRedirects=requests.exceptions:TooManyRedirects",
        "function|cookiejar_from_dict default_headers default_hooks dispatch_hook",
        "function|extract_cookies_to_jar get_auth_from_url get_environ_proxies",
        "function|get_netrc_auth merge_cookies merge_hooks merge_setting requote_uri",
        "function|resolve_proxies rewind_body session should_bypass_proxies",
        "function|to_key_val_list to_native_string urljoin urlparse",
        "module|cookielib=http.cookiejar os sys time",
        "of LookupDict|codes",
        "of dict|DEFAULT_PORTS",
        "of int|DEFAULT_REDIRECT_LIMIT",
        "of tuple|REDIRECT_STATI"]),
    ("requests.status_codes",
      ["class|LookupDict=requests.structures:LookupDict",
        "of LookupDict|codes"]),
    ("requests.structures",
      ["class|CaseInsensitiveDict LookupDict Mapping=collections.abc:Mapping",
        "class|MutableMapping=collections.abc:MutableMapping",
        "class|OrderedDict=collections:OrderedDict"]),
    ("requests.utils",
      ["class|CaseInsensitiveDict=requests.structures:CaseInsensitiveDict",
        "class|Mapping=collections.abc:Mapping OrderedDict=collections:OrderedDict",
        "class|bytes=builtins:bytes str=builtins:str",
        "exception|FileModeWarning=requests.exceptions:FileModeWarning",
        "exception|InvalidHeader=requests.exceptions:InvalidHeader",
        "exception|InvalidURL=requests.exceptions:InvalidURL",
        "exception|UnrewindableBodyError=requests.exceptions:UnrewindableBodyError",
        "function|add_dict_to_cookiejar address_in_network atomic_open",
        "function|check_header_validity cookiejar_from_dict default_headers",
        "function|default_user_agent dict_from_cookiejar dict_to_sequence dotted_netmask",
        "function|extract_zipped_paths from_key_val_list get_auth_from_url",
        "function|get_encoding_from_headers get_encodings_from_content",
        "function|get_environ_proxies get_netrc_auth get_unicode_from_response getproxies",
        "function|getproxies_environment guess_filename guess_json_utf is_ipv4_address",
        "function|is_valid_cidr iter_slices make_headers parse_dict_header",
        "function|parse_header_links parse_list_header parse_url prepend_scheme_if_needed",
        "function|proxy_bypass proxy_bypass_environment quote requote_uri resolve_proxies",
        "function|rewind_body select_proxy set_environ should_bypass_proxies",
        "function|stream_decode_response_unicode super_len to_key_val_list",
        "function|to_native_string unquote unquote_header_value unquote_unreserved",
        "function|urldefragauth urlparse urlunparse",
        "module|certs=requests.certs codecs contextlib io os re socket struct sys",
        "module|tempfile warnings zipfile",
        "of dict|DEFAULT_PORTS HEADER_VALIDATORS",
        "of frozenset|UNRESERVED_SET",
        "of str|DEFAULT_ACCEPT_ENCODING DEFAULT_CA_BUNDLE_PATH __version__",
        "of tuple|NETRC_FILES basestring integer_types"]),
    ("rich",
      ["class|Any=typing:Any IO=typing:IO",
        "form|Callable Optional Union",
        "function|get_console inspect load_ipython_extension print print_json reconfigure",
        "hidden|Any Callable IO Optional TYPE_CHECKING Union load_ipython_extension os",
        "module|os",
        "of bool|TYPE_CHECKING",
        "of dict|__annotations__",
        "of list|__all__"]),
    ("rich.align",
      ["callable|AlignMethod StyleType VerticalAlignMethod",
        "class|Align Constrain=rich.constrain:Constrain",
        "class|JupyterMixin=rich.jupyter:JupyterMixin",
        "class|Measurement=rich.measure:Measurement Segment=rich.segment:Segment",
        "class|VerticalCenter chain=itertools:chain",
        "form|Iterable Literal Optional",
        "module|sys",
        "of bool|TYPE_CHECKING"]),
    ("rich.box",
      ["class|Box",
        "form|Iterable List Literal",
        "function|loop_last",
        "module|sys",
        "of Box|ASCII ASCII2 ASCII_DOUBLE_HEAD DOUBLE DOUBLE_EDGE HEAVY HEAVY_EDGE",
        "of Box|HEAVY_HEAD HORIZONTALS MARKDOWN MINIMAL MINIMAL_DOUBLE_HEAD",
        "of Box|MINIMAL_HEAVY_HEAD ROUNDED SIMPLE SIMPLE_HEAD SIMPLE_HEAVY SQUARE",
        "of Box|SQUARE_DOUBLE_HEAD",
        "of bool|TYPE_CHECKING",
        "of dict|LEGACY_WINDOWS_SUBSTITUTIONS PLAIN_HEADED_SUBSTITUTIONS __annotations__"]),
    ("rich.cells",
      ["callable|cached_cell_len get_character_cell_size",
        "form|Callable",
        "function|cell_len chop_cells lru_cache set_cell_size",
        "module|re",
        "of _Feature|annotations",
        "of list|CELL_WIDTHS"]),
    ("rich.color",
      ["callable|Result",
        "class|Color ColorSystem ColorTriplet=rich.color_triplet:ColorTriplet ColorType",
        "class|IntEnum=enum:IntEnum",
        "exception|ColorParseError",
        "form|Optional Tuple",
        "function|NamedTuple blend_rgb lru_cache parse_rgb_hex rgb_to_hls rich_repr",
        "module|platform re",
        "of Palette|EIGHT_BIT_PALETTE STANDARD_PALETTE WINDOWS_PALETTE",
        "of TerminalTheme|DEFAULT_TERMINAL_THEME",
        "of bool|TYPE_CHECKING WINDOWS",
        "of dict|ANSI_COLOR_NAMES",
        "of re.Pattern|RE_COLOR"]),
    ("rich.columns",
      ["callable|AlignMethod PaddingDimensions RenderResult RenderableType TextType",
        "class|Align=rich.align:Align Columns Console=rich.console:Console",
        "class|ConsoleOptions=rich.console:ConsoleOptions",
        "class|Constrain=rich.constrain:Constrain JupyterMixin=rich.jupyter:JupyterMixin",
        "class|Measurement=rich.measure:Measurement Padding=rich.padding:Padding",
        "class|Table=rich.table:Table chain=itertools:chain",
        "class|defaultdict=collections:defaultdict itemgetter=operator:itemgetter",
        "form|Dict Iterable List Optional Tuple"]),
    ("rich.console",
      ["builtin|ceil monotonic",
        "callable|AlignMethod EmojiVariant FormatTimeCallable HighlighterType",
        "callable|JustifyMethod OverflowMethod RenderResult RenderableType StyleType",
        "callable|TextType",
        "class|ABC=abc:ABC Align=rich.align:Align Any=typing:Any Capture",
        "class|ColorSystem=rich.color:ColorSystem Console ConsoleDimensions",
        "class|ConsoleOptions ConsoleRenderable ConsoleThreadLocals",
        "class|Control=rich.control:Control FrameType=builtins:frame Group IO=typing:IO",
        "class|LogRender=rich._log_render:LogRender Measurement=rich.measure:Measurement",
        "class|ModuleType=builtins:module NewLine NoChange",
        "class|NullHighlighter=rich.highlighter:NullHighlighter Pager=rich.pager:Pager",
        "class|PagerContext Pretty=rich.pretty:Pretty Protocol=typing:Protocol",
        "class|Region=rich.region:Region RenderHook",
        "class|ReprHighlighter=rich.highlighter:ReprHighlighter RichCast",
        "class|Screen=rich.screen:Screen ScreenContext ScreenUpdate",
        "class|Segment=rich.segment:Segment Style=rich.style:Style",
        "class|Styled=rich.styled:Styled SystemPager=rich.pager:SystemPager",
        "class|TerminalTheme=rich.terminal_theme:TerminalTheme Text=rich.text:Text",
        "class|TextIO=typing:TextIO Theme=rich.theme:Theme ThemeContext",
        "class|ThemeStack=rich.theme:ThemeStack TracebackType=builtins:traceback",
        "class|datetime=datetime:datetime islice=itertools:islice",
        "exception|CaptureError",
        "form|Callable Dict Iterable List Literal Mapping Optional Tuple Type Union",
        "function|NamedTuple abstractmethod blend_rgb cast dataclass",
        "function|detect_legacy_windows escape field get_fileno",
        "function|get_windows_console_features getpass group is_expandable isclass",
        "function|measure_renderables render_markup render_scope rich_cast",
        "function|runtime_checkable wraps",
        "module|errors=rich.errors inspect os platform sys themes=rich.themes threading",
        "module|zlib",
        "of NoChange|NO_CHANGE",
        "of NullFile|NULL_FILE",
        "of TerminalTheme|DEFAULT_TERMINAL_THEME SVG_EXPORT_THEME",
        "of bool|TYPE_CHECKING WINDOWS",
        "of dict|COLOR_SYSTEMS __annotations__",
        "of int|JUPYTER_DEFAULT_COLUMNS JUPYTER_DEFAULT_LINES",
        "of str|CONSOLE_HTML_FORMAT CONSOLE_SVG_FORMAT"]),
    ("rich.errors",
      ["exception|ConsoleError LiveError MarkupError MissingStyle NoAltScreen",
        "exception|NotRenderableError StyleError StyleStackError StyleSyntaxError"]),
    ("rich.json",
      ["class|Any=typing:Any JSON JSONHighlighter=rich.highlighter:JSONHighlighter",
        "class|NullHighlighter=rich.highlighter:NullHighlighter Path=pathlib:Path",
        "class|Text=rich.text:Text",
        "form|Callable Optional Union",
        "function|dumps loads"]),
    ("rich.live",
      ["callable|RenderableType VerticalOverflowMethod",
        "class|Any=typing:Any Console=rich.console:Console",
        "class|ConsoleRenderable=rich.console:ConsoleRenderable",
        "class|Control=rich.control:Control Event=threading:Event",
        "class|FileProxy=rich.file_proxy:FileProxy IO=typing:IO",
        "class|JupyterMixin=rich.jupyter:JupyterMixin Live",
        "class|LiveRender=rich.live_render:LiveRender RenderHook=rich.console:RenderHook",
        "class|Screen=rich.screen:Screen Text=rich.text:Text TextIO=typing:TextIO",
        "class|Thread=threading:Thread TracebackType=builtins:traceback",
        "form|Callable List Optional Type",
        "function|RLock cast get_console",
        "module|sys",
        "of dict|__annotations__"]),
    ("rich.logging",
      ["callable|FormatTimeCallable",
        "class|Console=rich.console:Console",
        "class|ConsoleRenderable=rich.console:ConsoleRenderable Handler=logging:Handler",
        "class|Highlighter=rich.highlighter:Highlighter LogRecord=logging:LogRecord",
        "class|LogRender=rich._log_render:LogRender ModuleType=builtins:module",
        "class|NullFile=rich._null_file:NullFile Path=pathlib:Path",
        "class|ReprHighlighter=rich.highlighter:ReprHighlighter RichHandler",
        "class|Text=rich.text:Text Traceback=rich.traceback:Traceback",
        "class|datetime=datetime:datetime",
        "form|ClassVar Iterable List Optional Type Union",
        "function|get_console",
        "module|logging"]),
    ("rich.markup",
      ["callable|EmojiVariant",
        "class|Span=rich.text:Span Style=rich.style:Style Tag Text=rich.text:Text",
        "class|attrgetter=operator:attrgetter",
        "exception|MarkupError=rich.errors:MarkupError",
        "form|Callable Iterable List Match Optional Tuple Union",
        "function|NamedTuple escape literal_eval render",
        "module|re",
        "of re.Pattern|RE_HANDLER RE_TAGS"]),
    ("rich.measure",
      ["class|Measurement itemgetter=operator:itemgetter",
        "form|Callable Optional Sequence",
        "function|NamedTuple is_renderable measure_renderables rich_cast",
        "module|errors=rich.errors",
        "of bool|TYPE_CHECKING"]),
    ("rich.padding",
      ["callable|PaddingDimensions",
        "class|JupyterMixin=rich.jupyter:JupyterMixin",
        "class|Measurement=rich.measure:Measurement Padding Segment=rich.segment:Segment",
        "class|Style=rich.style:Style",
        "form|List Optional Tuple Union",
        "function|cast",
        "of bool|TYPE_CHECKING"]),
    ("rich.panel",
      ["callable|AlignMethod PaddingDimensions StyleType TextType",
        "class|Box=rich.box:Box JupyterMixin=rich.jupyter:JupyterMixin",
        "class|Measurement=rich.measure:Measurement Padding=rich.padding:Padding Panel",
        "class|Segment=rich.segment:Segment Style=rich.style:Style Text=rich.text:Text",
        "form|Optional",
        "function|cell_len measure_renderables",
        "of Box|ROUNDED",
        "of bool|TYPE_CHECKING"]),
    ("rich.pretty",
      ["callable|RichReprResult",
        "class|Any=typing:Any Counter=collections:Counter",
        "class|JupyterMixin=rich.jupyter:JupyterMixin",
        "class|JupyterRenderable=rich.jupyter:JupyterRenderable",
        "class|MappingProxyType=builtins:mappingproxy",
        "class|Measurement=rich.measure:Measurement Node Pretty",
        "class|ReprHighlighter=rich.highlighter:ReprHighlighter",
        "class|RichRenderable=rich.abc:RichRenderable Text=rich.text:Text",
        "class|UserDict=collections:UserDict UserList=collections:UserList",
        "class|array=array:array defaultdict=collections:defaultdict",
        "class|deque=collections:deque islice=itertools:islice",
        "form|Callable DefaultDict Dict Iterable List Optional Sequence Set Tuple Union",
        "function|cell_len dataclass fields get_console install is_dataclass",
        "function|is_expandable isclass loop_last pick_bool pprint pretty_repr traverse",
        "module|builtins collections dataclasses inspect os sys",
        "of bool|TYPE_CHECKING",
        "of dict|__annotations__"]),
    ("rich.progress",
      ["builtin|ceil length_hint stat",
        "callable|GetTimeCallable JustifyMethod RenderableType StyleType TaskID TextType",
        "class|ABC=abc:ABC Any=typing:Any BarColumn BinaryIO=typing:BinaryIO",
        "class|Column=rich.table:Column Console=rich.console:Console DownloadColumn",
        "class|Event=threading:Event FileSizeColumn Generic=typing:Generic",
        "class|Group=rich.console:Group Highlighter=rich.highlighter:Highlighter",
        "class|JupyterMixin=rich.jupyter:JupyterMixin Live=rich.live:Live",
        "class|MofNCompleteColumn NewType=typing:NewType PathLike=os:PathLike Progress",
        "class|ProgressBar=rich.progress_bar:ProgressBar ProgressColumn ProgressSample",
        "class|RawIOBase=io:RawIOBase RenderableColumn Spinner=rich.spinner:Spinner",
        "class|SpinnerColumn Table=rich.table:Table Task TaskProgressColumn",
        "class|Text=rich.text:Text TextColumn TextIO=typing:TextIO",
        "class|Thread=threading:Thread TimeElapsedColumn TimeRemainingColumn",
        "class|TotalFileSizeColumn TracebackType=builtins:traceback TransferSpeedColumn",
        "class|TypeVar=typing:TypeVar deque=collections:deque mmap=mmap:mmap",
        "class|timedelta=datetime:timedelta",
        "exception|UnsupportedOperation=io:UnsupportedOperation",
        "form|Callable ContextManager Deque Dict Iterable List Literal Optional Sequence",
        "form|Tuple Type Union",
        "function|NamedTuple RLock abstractmethod dataclass field get_console open track",
        "function|wrap_file",
        "module|filesize=rich.filesize io sys typing warnings",
        "of TypeVar|ProgressType"]),
    ("rich.prompt",
      ["callable|TextType",
        "class|Any=typing:Any Confirm Console=rich.console:Console FloatPrompt",
        "class|Generic=typing:Generic IntPrompt Prompt PromptBase Text=rich.text:Text",
        "class|TextIO=typing:TextIO TypeVar=typing:TypeVar",
        "exception|InvalidResponse PromptError",
        "form|List Optional Union",
        "function|get_console overload",
        "of TypeVar|DefaultType PromptType"]),
    ("rich.rule",
      ["callable|AlignMethod RenderResult",
        "class|Console=rich.console:Console ConsoleOptions=rich.console:ConsoleOptions",
        "class|JupyterMixin=rich.jupyter:JupyterMixin",
        "class|Measurement=rich.measure:Measurement Rule Style=rich.style:Style",
        "class|Text=rich.text:Text",
        "form|Union",
        "function|cell_len set_cell_size"]),
    ("rich.segment",
      ["callable|ControlCode Result cached_cell_len get_character_cell_size",
        "class|ControlType IntEnum=enum:IntEnum Segment SegmentLines Segments",
        "class|Style=rich.style:Style attrgetter=operator:attrgetter",
        "class|filterfalse=itertools:filterfalse",
        "form|Dict Iterable List Optional Sequence Tuple Type Union",
        "function|NamedTuple cell_len getLogger lru_cache rich_repr set_cell_size",
        "of VerboseLogger|log",
        "of bool|TYPE_CHECKING"]),
    ("rich.style",
      ["builtin|dumps loads",
        "callable|Result StyleType randint",
        "class|Any=typing:Any Color=rich.color:Color ColorSystem=rich.color:ColorSystem",
        "class|Style StyleStack TerminalTheme=rich.terminal_theme:TerminalTheme",
        "exception|ColorParseError=rich.color:ColorParseError",
        "form|Dict Iterable List Optional Type Union",
        "function|blend_rgb cast lru_cache rich_repr",
        "module|errors=rich.errors sys",
        "of Style|NULL_STYLE",
        "of TerminalTheme|DEFAULT_TERMINAL_THEME"]),
    ("rich.syntax",
      ["callable|JustifyMethod PaddingDimensions RenderResult StyleType SyntaxPosition",
        "callable|TokenType",
        "class|ABC=abc:ABC ANSISyntaxTheme Any=typing:Any Color=rich.color:Color",
        "class|Console=rich.console:Console ConsoleOptions=rich.console:ConsoleOptions",
        "class|JupyterMixin=rich.jupyter:JupyterMixin Lexer=pygments.lexer:Lexer",
        "class|Lines=rich.containers:Lines Measurement=rich.measure:Measurement",
        "class|Padding=rich.padding:Padding Path=pathlib:Path",
        "class|PygmentsStyle=pygments.style:Style PygmentsSyntaxTheme",
        "class|Segment=rich.segment:Segment Segments=rich.segment:Segments",
        "class|Style=rich.style:Style Syntax SyntaxTheme Text=rich.text:Text",
        "exception|ClassNotFound=pygments.util:ClassNotFound",
        "form|Dict Iterable List Optional Sequence Set Tuple Type Union",
        "function|NamedTuple abstractmethod blend_rgb cell_len get_lexer_by_name",
        "function|get_style_by_name guess_lexer_for_filename loop_first",
        "module|os platform re sys textwrap",
        "of _TokenType|Comment Error Generic Keyword Name Number Operator String Token",
        "of _TokenType|Whitespace",
        "of bool|WINDOWS",
        "of dict|ANSI_DARK ANSI_LIGHT RICH_SYNTAX_THEMES __annotations__",
        "of int|NUMBERS_COLUMN_DEFAULT_PADDING",
        "of str|DEFAULT_THEME"]),
    ("rich.table",
      ["callable|PaddingDimensions StyleType TextType VerticalAlignMethod",
        "class|Column JupyterMixin=rich.jupyter:JupyterMixin",
        "class|Measurement=rich.measure:Measurement Padding=rich.padding:Padding Row",
        "class|Segment=rich.segment:Segment Style=rich.style:Style Table",
        "class|Text=rich.text:Text",
        "form|Dict Iterable List Optional Sequence Tuple Union",
        "function|NamedTuple dataclass field is_renderable loop_first_last loop_last",
        "function|pick_bool ratio_distribute ratio_reduce replace",
        "module|box=rich.box errors=rich.errors",
        "of bool|TYPE_CHECKING"]),
    ("rich.text",
      ["builtin|gcd reduce",
        "callable|AlignMethod EmojiVariant GetStyleCallable StyleType TextType",
        "class|Any=typing:Any JupyterMixin=rich.jupyter:JupyterMixin",
        "class|Lines=rich.containers:Lines Measurement=rich.measure:Measurement",
        "class|Segment=rich.segment:Segment Span Style=rich.style:Style Text",
        "class|itemgetter=operator:itemgetter partial=functools:partial",
        "form|Callable Dict Iterable List Optional Tuple Union",
        "function|NamedTuple cell_len divide_line loop_last pick_bool set_cell_size",
        "function|strip_control_codes",
        "module|re",
        "of bool|TYPE_CHECKING",
        "of dict|__annotations__",
        "of str|DEFAULT_JUSTIFY DEFAULT_OVERFLOW"]),
    ("rich.theme",
      ["callable|StyleType",
        "class|IO=typing:IO Style=rich.style:Style Theme ThemeStack",
        "exception|ThemeStackError",
        "form|Dict List Mapping Optional",
        "module|configparser",
        "of dict|DEFAULT_STYLES"]),
    ("rich.traceback",
      ["callable|RenderResult",
        "class|Any=typing:Any Columns=rich.columns:Columns Console=rich.console:Console",
        "class|ConsoleOptions=rich.console:ConsoleOptions",
        "class|ConsoleRenderable=rich.console:ConsoleRenderable",
        "class|Constrain=rich.constrain:Constrain Frame ModuleType=builtins:module",
        "class|Panel=rich.panel:Panel PathHighlighter",
        "class|RegexHighlighter=rich.highlighter:RegexHighlighter",
        "class|ReprHighlighter=rich.highlighter:ReprHighlighter Stack",
        "class|Style=rich.style:Style Syntax=rich.syntax:Syntax Text=rich.text:Text",
        "class|Theme=rich.theme:Theme Trace Traceback TracebackType=builtins:traceback",
        "exception|ClassNotFound=pygments.util:ClassNotFound",
        "form|Callable Dict Iterable List Optional Sequence Tuple Type Union",
        "function|dataclass field group guess_lexer_for_filename install loop_last",
        "function|render_scope walk_tb",
        "module|linecache os platform pretty=rich.pretty sys",
        "of _Feature|absolute_import",
        "of _TokenType|Comment Keyword Name Number Operator String TextToken Token",
        "of bool|WINDOWS",
        "of int|LOCALS_MAX_LENGTH LOCALS_MAX_STRING"]),
    ("rich.tree",
      ["callable|RenderResult RenderableType StyleType",
        "class|Console=rich.console:Console ConsoleOptions=rich.console:ConsoleOptions",
        "class|JupyterMixin=rich.jupyter:JupyterMixin",
        "class|Measurement=rich.measure:Measurement Segment=rich.segment:Segment",
        "class|Style=rich.style:Style StyleStack=rich.style:StyleStack",
        "class|Styled=rich.styled:Styled Tree",
        "form|Iterator List Optional Tuple",
        "function|loop_first loop_last"]) ]

end SqlScaffold.Load
