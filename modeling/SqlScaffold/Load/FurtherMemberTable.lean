/-!
Members of modules of the library that are seldom asked for.
-/

namespace SqlScaffold.Load

def memberDataAToC : List (String × List String) :=
  [ ("__future__",
      ["hidden|CO_FUTURE_ABSOLUTE_IMPORT CO_FUTURE_ANNOTATIONS CO_FUTURE_BARRY_AS_BDFL",
        "hidden|CO_FUTURE_DIVISION CO_FUTURE_GENERATOR_STOP CO_FUTURE_PRINT_FUNCTION",
        "hidden|CO_FUTURE_UNICODE_LITERALS CO_FUTURE_WITH_STATEMENT CO_GENERATOR_ALLOWED",
        "hidden|CO_NESTED",
        "of _Feature|absolute_import annotations barry_as_FLUFL division generator_stop",
        "of _Feature|generators nested_scopes print_function unicode_literals",
        "of _Feature|with_statement",
        "of int|CO_FUTURE_ABSOLUTE_IMPORT CO_FUTURE_ANNOTATIONS CO_FUTURE_BARRY_AS_BDFL",
        "of int|CO_FUTURE_DIVISION CO_FUTURE_GENERATOR_STOP CO_FUTURE_PRINT_FUNCTION",
        "of int|CO_FUTURE_UNICODE_LITERALS CO_FUTURE_WITH_STATEMENT CO_GENERATOR_ALLOWED",
        "of int|CO_NESTED",
        "of list|__all__ all_feature_names"]),
    ("aifc",
      ["class|Aifc_read Aifc_write Chunk=chunk:Chunk",
        "exception|Error",
        "function|namedtuple open",
        "hidden|Aifc_read Aifc_write Chunk builtins namedtuple struct warnings",
        "module|builtins struct warnings",
        "of dict|__warningregistry__",
        "of list|__all__"]),
    ("argparse",
      ["class|Action ArgumentDefaultsHelpFormatter ArgumentError ArgumentParser",
        "class|BooleanOptionalAction FileType HelpFormatter MetavarTypeHelpFormatter",
        "class|Namespace RawDescriptionHelpFormatter RawTextHelpFormatter",
        "exception|ArgumentTypeError",
        "function|ngettext",
        "hidden|ngettext warnings",
        "module|warnings",
        "of list|__all__",
        "of str|ONE_OR_MORE OPTIONAL PARSER REMAINDER SUPPRESS ZERO_OR_MORE __version__"]),
    ("array",
      ["class|ArrayType=array:array array",
        "of str|typecodes"]),
    ("ast",
      ["class|AST Add And AnnAssign Assert Assign AsyncFor AsyncFunctionDef AsyncWith",
        "class|Attribute AugAssign AugLoad AugStore Await BinOp BitAnd BitOr BitXor",
        "class|BoolOp Break Bytes Call ClassDef Compare Constant Continue Del Delete Dict",
        "class|DictComp Div Ellipsis Eq ExceptHandler Expr Expression ExtSlice FloorDiv",
        "class|For FormattedValue FunctionDef FunctionType GeneratorExp Global Gt GtE If",
        "class|IfExp Import ImportFrom In Index IntEnum=enum:IntEnum Interactive Invert",
        "class|Is IsNot JoinedStr LShift Lambda List ListComp Load Lt LtE MatMult Match",
        "class|MatchAs MatchClass MatchMapping MatchOr MatchSequence MatchSingleton",
        "class|MatchStar MatchValue Mod Module Mult Name NameConstant NamedExpr",
        "class|NodeTransformer NodeVisitor Nonlocal Not NotEq NotIn Num Or Param Pass Pow",
        "class|RShift Raise Return Set SetComp Slice Starred Store Str Sub Subscript",
        "class|Suite Try TryStar Tuple TypeIgnore UAdd USub UnaryOp While With Yield",
        "class|YieldFrom alias arg arguments auto=enum:auto boolop cmpop comprehension",
        "class|excepthandler expr expr_context keyword match_case mod",
        "class|nullcontext=contextlib:nullcontext operator pattern slice stmt type_ignore",
        "class|unaryop withitem",
        "function|contextmanager copy_location dump fix_missing_locations get_docstring",
        "function|get_source_segment increment_lineno iter_child_nodes iter_fields",
        "function|literal_eval main parse unparse walk",
        "module|sys",
        "of int|PyCF_ALLOW_TOP_LEVEL_AWAIT PyCF_ONLY_AST PyCF_TYPE_COMMENTS"]),
    ("asynchat",
      ["class|async_chat deque=collections:deque simple_producer",
        "function|find_prefix_at_end",
        "module|asyncore",
        "of dict|__warningregistry__"]),
    ("asyncio",
      ["builtin|get_event_loop get_running_loop",
        "class|AbstractChildWatcher=asyncio.unix_events:AbstractChildWatcher",
        "class|AbstractEventLoop=asyncio.events:AbstractEventLoop",
        "class|AbstractEventLoopPolicy=asyncio.events:AbstractEventLoopPolicy",
        "class|AbstractServer=asyncio.events:AbstractServer Barrier=asyncio.locks:Barrier",
        "class|BaseEventLoop=asyncio.base_events:BaseEventLoop",
        "class|BaseProtocol=asyncio.protocols:BaseProtocol",
        "class|BaseTransport=asyncio.transports:BaseTransport",
        "class|BoundedSemaphore=asyncio.locks:BoundedSemaphore",
        "class|BufferedProtocol=asyncio.protocols:BufferedProtocol",
        "class|Condition=asyncio.locks:Condition",
        "class|DatagramProtocol=asyncio.protocols:DatagramProtocol",
        "class|DatagramTransport=asyncio.transports:DatagramTransport",
        "class|DefaultEventLoopPolicy=asyncio.unix_events:_UnixDefaultEventLoopPolicy",
        "class|Event=asyncio.locks:Event",
        "class|FastChildWatcher=asyncio.unix_events:FastChildWatcher",
        "class|Future=_asyncio:Future Handle=asyncio.events:Handle",
        "class|IncompleteReadError=asyncio.exceptions:IncompleteReadError",
        "class|LifoQueue=asyncio.queues:LifoQueue",
        "class|LimitOverrunError=asyncio.exceptions:LimitOverrunError",
        "class|Lock=asyncio.locks:Lock",
        "class|MultiLoopChildWatcher=asyncio.unix_events:MultiLoopChildWatcher",
        "class|PidfdChildWatcher=asyncio.unix_events:PidfdChildWatcher",
        "class|PriorityQueue=asyncio.queues:PriorityQueue",
        "class|Protocol=asyncio.protocols:Protocol Queue=asyncio.queues:Queue",
        "class|ReadTransport=asyncio.transports:ReadTransport",
        "class|Runner=asyncio.runners:Runner",
        "class|SafeChildWatcher=asyncio.unix_events:SafeChildWatcher",
        "class|SelectorEventLoop=asyncio.unix_events:_UnixSelectorEventLoop",
        "class|Semaphore=asyncio.locks:Semaphore Server=asyncio.base_events:Server",
        "class|StreamReader=asyncio.streams:StreamReader",
        "class|StreamReaderProtocol=asyncio.streams:StreamReaderProtocol",
        "class|StreamWriter=asyncio.streams:StreamWriter",
        "class|SubprocessProtocol=asyncio.protocols:SubprocessProtocol",
        "class|SubprocessTransport=asyncio.transports:SubprocessTransport",
        "class|Task=_asyncio:Task TaskGroup=asyncio.taskgroups:TaskGroup",
        "class|ThreadedChildWatcher=asyncio.unix_events:ThreadedChildWatcher",
        "class|Timeout=asyncio.timeouts:Timeout TimerHandle=asyncio.events:TimerHandle",
        "class|Transport=asyncio.transports:Transport",
        "class|WriteTransport=asyncio.transports:WriteTransport",
        "exception|BrokenBarrierError=asyncio.exceptions:BrokenBarrierError",
        "exception|CancelledError=asyncio.exceptions:CancelledError",
        "exception|InvalidStateError=asyncio.exceptions:InvalidStateError",
        "exception|QueueEmpty=asyncio.queues:QueueEmpty",
        "exception|QueueFull=asyncio.queues:QueueFull",
        "exception|SendfileNotAvailableError=asyncio.exceptions:SendfileNotAvailableError",
        "exception|TimeoutError=builtins:TimeoutError",
        "function|all_tasks as_completed create_subprocess_exec create_subprocess_shell",
        "function|create_task current_task ensure_future gather get_child_watcher",
        "function|get_event_loop_policy iscoroutine iscoroutinefunction isfuture",
        "function|new_event_loop open_connection open_unix_connection run",
        "function|run_coroutine_threadsafe set_child_watcher set_event_loop",
        "function|set_event_loop_policy shield sleep start_server start_unix_server",
        "function|timeout timeout_at to_thread wait wait_for wrap_future",
        "hidden|TaskGroup base_events base_futures base_subprocess base_tasks constants",
        "hidden|coroutines events exceptions format_helpers futures locks log mixins",
        "hidden|protocols queues runners selector_events sslproto staggered streams",
        "hidden|subprocess sys taskgroups tasks threads timeouts transports trsock",
        "hidden|unix_events",
        "module|base_events=asyncio.base_events base_futures=asyncio.base_futures",
        "module|base_subprocess=asyncio.base_subprocess base_tasks=asyncio.base_tasks",
        "module|constants=asyncio.constants coroutines=asyncio.coroutines",
        "module|events=asyncio.events exceptions=asyncio.exceptions",
        "module|format_helpers=asyncio.format_helpers futures=asyncio.futures",
        "module|locks=asyncio.locks log=asyncio.log mixins=asyncio.mixins",
        "module|protocols=asyncio.protocols queues=asyncio.queues runners=asyncio.runners",
        "module|selector_events=asyncio.selector_events sslproto=asyncio.sslproto",
        "module|staggered=asyncio.staggered streams=asyncio.streams",
        "module|subprocess=asyncio.subprocess sys taskgroups=asyncio.taskgroups",
        "module|tasks=asyncio.tasks threads=asyncio.threads timeouts=asyncio.timeouts",
        "module|transports=asyncio.transports trsock=asyncio.trsock",
        "module|unix_events=asyncio.unix_events",
        "of str|ALL_COMPLETED FIRST_COMPLETED FIRST_EXCEPTION",
        "of tuple|__all__",
        "shown|_enter_task _get_running_loop _leave_task _register_task _set_running_loop",
        "shown|_unregister_task"]),
    ("asyncio.base_events",
      ["class|BaseEventLoop Server",
        "hidden|MAXIMUM_SELECT_TIMEOUT collections concurrent constants coroutines errno",
        "hidden|events exceptions functools futures heapq itertools logger os protocols",
        "hidden|socket ssl sslproto staggered stat subprocess sys tasks threading time",
        "hidden|traceback transports trsock warnings weakref",
        "module|collections concurrent constants=asyncio.constants",
        "module|coroutines=asyncio.coroutines errno events=asyncio.events",
        "module|exceptions=asyncio.exceptions functools futures=asyncio.futures heapq",
        "module|itertools os protocols=asyncio.protocols socket ssl",
        "module|sslproto=asyncio.sslproto staggered=asyncio.staggered stat subprocess sys",
        "module|tasks=asyncio.tasks threading time traceback",
        "module|transports=asyncio.transports trsock=asyncio.trsock warnings weakref",
        "of Logger|logger",
        "of int|MAXIMUM_SELECT_TIMEOUT",
        "of tuple|__all__"]),
    ("asyncio.base_futures",
      ["builtin|get_ident",
        "function|isfuture",
        "hidden|format_helpers get_ident isfuture reprlib",
        "module|format_helpers=asyncio.format_helpers reprlib",
        "of tuple|__all__"]),
    ("asyncio.base_subprocess",
      ["class|BaseSubprocessTransport ReadSubprocessPipeProto WriteSubprocessPipeProto",
        "module|collections protocols=asyncio.protocols subprocess",
        "module|transports=asyncio.transports warnings",
        "of Logger|logger"]),
    ("asyncio.base_tasks",
      ["module|base_futures=asyncio.base_futures coroutines=asyncio.coroutines linecache",
        "module|reprlib traceback"]),
    ("asyncio.constants",
      ["module|enum",
        "of float|SSL_HANDSHAKE_TIMEOUT SSL_SHUTDOWN_TIMEOUT",
        "of int|ACCEPT_RETRY_DELAY DEBUG_STACK_DEPTH FLOW_CONTROL_HIGH_WATER_SSL_READ",
        "of int|FLOW_CONTROL_HIGH_WATER_SSL_WRITE LOG_THRESHOLD_FOR_CONNLOST_WRITES",
        "of int|SENDFILE_FALLBACK_READBUFFER_SIZE"]),
    ("asyncio.coroutines",
      ["function|iscoroutine iscoroutinefunction",
        "hidden|collections inspect os sys traceback types",
        "module|collections inspect os sys traceback types",
        "of tuple|__all__"]),
    ("asyncio.events",
      ["builtin|get_event_loop get_running_loop",
        "class|AbstractEventLoop AbstractEventLoopPolicy AbstractServer",
        "class|BaseDefaultEventLoopPolicy Handle TimerHandle",
        "function|get_child_watcher get_event_loop_policy new_event_loop",
        "function|set_child_watcher set_event_loop set_event_loop_policy",
        "hidden|BaseDefaultEventLoopPolicy contextvars format_helpers os socket",
        "hidden|subprocess sys threading",
        "module|contextvars format_helpers=asyncio.format_helpers os socket subprocess",
        "module|sys threading",
        "of tuple|__all__",
        "shown|_get_running_loop _set_running_loop"]),
    ("asyncio.exceptions",
      ["class|IncompleteReadError LimitOverrunError",
        "exception|BrokenBarrierError CancelledError InvalidStateError",
        "exception|SendfileNotAvailableError TimeoutError=builtins:TimeoutError",
        "of tuple|__all__"]),
    ("asyncio.format_helpers",
      ["function|extract_stack",
        "module|constants=asyncio.constants functools inspect reprlib sys traceback"]),
    ("asyncio.futures",
      ["class|Future=_asyncio:Future GenericAlias=types:GenericAlias",
        "function|isfuture wrap_future",
        "hidden|GenericAlias STACK_DEBUG base_futures concurrent contextvars events",
        "hidden|exceptions format_helpers logging sys",
        "module|base_futures=asyncio.base_futures concurrent contextvars",
        "module|events=asyncio.events exceptions=asyncio.exceptions",
        "module|format_helpers=asyncio.format_helpers logging sys",
        "of int|STACK_DEBUG",
        "of tuple|__all__"]),
    ("asyncio.locks",
      ["class|Barrier BoundedSemaphore Condition Event Lock Semaphore",
        "hidden|collections enum exceptions mixins tasks",
        "module|collections enum exceptions=asyncio.exceptions mixins=asyncio.mixins",
        "module|tasks=asyncio.tasks",
        "of tuple|__all__"]),
    ("asyncio.log",
      ["module|logging",
        "of Logger|logger"]),
    ("asyncio.mixins",
      ["module|events=asyncio.events threading"]),
    ("asyncio.proactor_events",
      ["class|BaseProactorEventLoop",
        "hidden|base_events collections constants exceptions futures io logger os",
        "hidden|protocols signal socket sslproto threading transports trsock warnings",
        "module|base_events=asyncio.base_events collections constants=asyncio.constants",
        "module|exceptions=asyncio.exceptions futures=asyncio.futures io os",
        "module|protocols=asyncio.protocols signal socket sslproto=asyncio.sslproto",
        "module|threading transports=asyncio.transports trsock=asyncio.trsock warnings",
        "of Logger|logger",
        "of tuple|__all__"]),
    ("asyncio.protocols",
      ["class|BaseProtocol BufferedProtocol DatagramProtocol Protocol SubprocessProtocol",
        "of tuple|__all__"]),
    ("asyncio.queues",
      ["class|GenericAlias=types:GenericAlias LifoQueue PriorityQueue Queue",
        "exception|QueueEmpty QueueFull",
        "hidden|GenericAlias collections heapq locks mixins",
        "module|collections heapq locks=asyncio.locks mixins=asyncio.mixins",
        "of tuple|__all__"]),
    ("asyncio.runners",
      ["class|Runner",
        "function|run",
        "hidden|contextvars coroutines enum events exceptions functools signal sys tasks",
        "hidden|threading",
        "module|contextvars coroutines=asyncio.coroutines enum events=asyncio.events",
        "module|exceptions=asyncio.exceptions functools signal sys tasks=asyncio.tasks",
        "module|threading",
        "of tuple|__all__"]),
    ("asyncio.selector_events",
      ["class|BaseSelectorEventLoop",
        "hidden|base_events collections constants errno events functools futures logger",
        "hidden|protocols selectors socket ssl sslproto transports trsock warnings",
        "hidden|weakref",
        "module|base_events=asyncio.base_events collections constants=asyncio.constants",
        "module|errno events=asyncio.events functools futures=asyncio.futures",
        "module|protocols=asyncio.protocols selectors socket ssl",
        "module|sslproto=asyncio.sslproto transports=asyncio.transports",
        "module|trsock=asyncio.trsock warnings weakref",
        "of Logger|logger",
        "of tuple|__all__"]),
    ("asyncio.sslproto",
      ["class|AppProtocolState SSLProtocol SSLProtocolState",
        "function|add_flowcontrol_defaults",
        "module|collections constants=asyncio.constants enum",
        "module|exceptions=asyncio.exceptions protocols=asyncio.protocols ssl",
        "module|transports=asyncio.transports warnings",
        "of Logger|logger",
        "of tuple|SSLAgainErrors"]),
    ("asyncio.staggered",
      ["function|staggered_race",
        "hidden|contextlib events exceptions_mod locks tasks typing",
        "module|contextlib events=asyncio.events exceptions_mod=asyncio.exceptions",
        "module|locks=asyncio.locks tasks=asyncio.tasks typing",
        "of tuple|__all__"]),
    ("asyncio.streams",
      ["class|FlowControlMixin StreamReader StreamReaderProtocol StreamWriter",
        "function|open_connection open_unix_connection sleep start_server",
        "function|start_unix_server",
        "hidden|FlowControlMixin collections coroutines events exceptions format_helpers",
        "hidden|logger protocols sleep socket sys warnings weakref",
        "module|collections coroutines=asyncio.coroutines events=asyncio.events",
        "module|exceptions=asyncio.exceptions format_helpers=asyncio.format_helpers",
        "module|protocols=asyncio.protocols socket sys warnings weakref",
        "of Logger|logger",
        "of tuple|__all__"]),
    ("asyncio.subprocess",
      ["class|Process SubprocessStreamProtocol",
        "function|create_subprocess_exec create_subprocess_shell",
        "hidden|DEVNULL PIPE Process STDOUT SubprocessStreamProtocol events logger",
        "hidden|protocols streams subprocess tasks",
        "module|events=asyncio.events protocols=asyncio.protocols streams=asyncio.streams",
        "module|subprocess tasks=asyncio.tasks",
        "of Logger|logger",
        "of int|DEVNULL PIPE STDOUT",
        "of tuple|__all__"]),
    ("asyncio.taskgroups",
      ["class|TaskGroup",
        "hidden|events exceptions tasks",
        "module|events=asyncio.events exceptions=asyncio.exceptions tasks=asyncio.tasks",
        "of list|__all__"]),
    ("asyncio.tasks",
      ["class|GenericAlias=types:GenericAlias Task=_asyncio:Task",
        "function|__sleep0 all_tasks as_completed create_task current_task ensure_future",
        "function|gather run_coroutine_threadsafe shield sleep wait wait_for",
        "hidden|GenericAlias base_tasks concurrent contextvars coroutines events",
        "hidden|exceptions functools futures inspect itertools types warnings weakref",
        "module|base_tasks=asyncio.base_tasks concurrent contextvars",
        "module|coroutines=asyncio.coroutines events=asyncio.events",
        "module|exceptions=asyncio.exceptions functools futures=asyncio.futures inspect",
        "module|itertools types warnings weakref",
        "of str|ALL_COMPLETED FIRST_COMPLETED FIRST_EXCEPTION",
        "of tuple|__all__",
        "shown|_enter_task _leave_task _register_task _unregister_task"]),
    ("asyncio.threads",
      ["function|to_thread",
        "hidden|contextvars events functools",
        "module|contextvars events=asyncio.events functools",
        "of tuple|__all__"]),
    ("asyncio.timeouts",
      ["class|Timeout TracebackType=builtins:traceback",
        "form|Optional Type",
        "function|final timeout timeout_at",
        "hidden|Optional TracebackType Type enum events exceptions final tasks",
        "module|enum events=asyncio.events exceptions=asyncio.exceptions",
        "module|tasks=asyncio.tasks",
        "of tuple|__all__"]),
    ("asyncio.transports",
      ["class|BaseTransport DatagramTransport ReadTransport SubprocessTransport",
        "class|Transport WriteTransport",
        "of tuple|__all__"]),
    ("asyncio.trsock",
      ["class|TransportSocket",
        "module|socket"]),
    ("asyncio.unix_events",
      ["class|AbstractChildWatcher BaseChildWatcher",
        "class|DefaultEventLoopPolicy=asyncio.unix_events:_UnixDefaultEventLoopPolicy",
        "class|FastChildWatcher MultiLoopChildWatcher PidfdChildWatcher SafeChildWatcher",
        "class|SelectorEventLoop=asyncio.unix_events:_UnixSelectorEventLoop",
        "class|ThreadedChildWatcher",
        "function|waitstatus_to_exitcode",
        "hidden|BaseChildWatcher base_events base_subprocess constants coroutines errno",
        "hidden|events exceptions futures io itertools logger os selector_events",
        "hidden|selectors signal socket stat subprocess sys tasks threading transports",
        "hidden|waitstatus_to_exitcode warnings",
        "module|base_events=asyncio.base_events base_subprocess=asyncio.base_subprocess",
        "module|constants=asyncio.constants coroutines=asyncio.coroutines errno",
        "module|events=asyncio.events exceptions=asyncio.exceptions",
        "module|futures=asyncio.futures io itertools os",
        "module|selector_events=asyncio.selector_events selectors signal socket stat",
        "module|subprocess sys tasks=asyncio.tasks threading",
        "module|transports=asyncio.transports warnings",
        "of Logger|logger",
        "of tuple|__all__"]),
    ("asyncore",
      ["class|dispatcher dispatcher_with_send file_dispatcher file_wrapper",
        "exception|ExitNow",
        "function|close_all compact_traceback loop poll poll2 poll3 read readwrite write",
        "module|os select socket sys time warnings",
        "of dict|errorcode socket_map",
        "of int|EAGAIN EALREADY EBADF ECONNABORTED ECONNRESET EINPROGRESS EINVAL EISCONN",
        "of int|ENOTCONN EPIPE ESHUTDOWN EWOULDBLOCK"]),
    ("atexit",
      ["builtin|register unregister"]),
    ("audioop",
      ["builtin|add adpcm2lin alaw2lin avg avgpp bias byteswap cross findfactor findfit",
        "builtin|findmax getsample lin2adpcm lin2alaw lin2lin lin2ulaw max maxpp minmax",
        "builtin|mul ratecv reverse rms tomono tostereo ulaw2lin",
        "exception|error"]),
    ("bdb",
      ["class|Bdb Breakpoint Tdb",
        "exception|BdbQuit",
        "function|bar checkfuncname effective foo set_trace test",
        "hidden|CO_ASYNC_GENERATOR CO_COROUTINE CO_GENERATOR",
        "hidden|GENERATOR_AND_COROUTINE_FLAGS Tdb bar checkfuncname effective fnmatch foo",
        "hidden|os set_trace sys test",
        "module|fnmatch os sys",
        "of int|CO_ASYNC_GENERATOR CO_COROUTINE CO_GENERATOR",
        "of int|GENERATOR_AND_COROUTINE_FLAGS",
        "of list|__all__"]),
    ("binascii",
      ["builtin|a2b_base64 a2b_hex a2b_qp a2b_uu b2a_base64 b2a_hex b2a_qp b2a_uu crc32",
        "builtin|crc_hqx hexlify unhexlify",
        "exception|Error Incomplete"]),
    ("bz2",
      ["class|BZ2Compressor=_bz2:BZ2Compressor BZ2Decompressor=_bz2:BZ2Decompressor",
        "class|BZ2File",
        "function|compress decompress open",
        "hidden|io os",
        "module|io os",
        "of list|__all__",
        "of str|__author__"]),
    ("cProfile",
      ["class|Profile",
        "function|label main run runctx",
        "hidden|io label main",
        "module|io",
        "of list|__all__"]),
    ("cgi",
      ["class|BytesIO=_io:BytesIO FeedParser=email.feedparser:FeedParser FieldStorage",
        "class|Mapping=collections.abc:Mapping Message=email.message:Message",
        "class|MiniFieldStorage StringIO=_io:StringIO TextIOWrapper=_io:TextIOWrapper",
        "function|closelog dolog initlog log nolog parse parse_header parse_multipart",
        "function|print_arguments print_directory print_environ print_environ_usage",
        "function|print_exception print_form test valid_boundary",
        "hidden|BytesIO FeedParser Mapping Message StringIO TextIOWrapper closelog dolog",
        "hidden|html initlog locale log logfile logfp maxlen nolog os sys tempfile urllib",
        "hidden|valid_boundary warnings",
        "module|html locale os sys tempfile urllib warnings",
        "of NoneType|logfp",
        "of int|maxlen",
        "of list|__all__",
        "of str|__version__ logfile"]),
    ("cgitb",
      ["callable|handler",
        "class|Hook",
        "function|enable grey html html_escape lookup reset scanvars small strong text",
        "module|inspect keyword linecache os pydoc sys tempfile time tokenize traceback",
        "module|warnings",
        "of list|__UNDEF__"]),
    ("chunk",
      ["class|Chunk",
        "module|warnings"]),
    ("cmath",
      ["builtin|acos acosh asin asinh atan atanh cos cosh exp isclose isfinite isinf",
        "builtin|isnan log log10 phase polar rect sin sinh sqrt tan tanh",
        "of complex|infj nanj",
        "of float|e inf nan pi tau"]),
    ("cmd",
      ["class|Cmd",
        "hidden|IDENTCHARS PROMPT string sys",
        "module|string sys",
        "of list|__all__",
        "of str|IDENTCHARS PROMPT"]),
    ("code",
      ["class|CommandCompiler=codeop:CommandCompiler InteractiveConsole",
        "class|InteractiveInterpreter",
        "function|compile_command interact",
        "hidden|CommandCompiler sys traceback",
        "module|sys traceback",
        "of list|__all__"]),
    ("codecs",
      ["builtin|ascii_decode ascii_encode backslashreplace_errors charmap_build",
        "builtin|charmap_decode charmap_encode decode encode escape_decode escape_encode",
        "builtin|ignore_errors latin_1_decode latin_1_encode lookup lookup_error",
        "builtin|namereplace_errors raw_unicode_escape_decode raw_unicode_escape_encode",
        "builtin|readbuffer_encode register register_error replace_errors strict_errors",
        "builtin|unicode_escape_decode unicode_escape_encode unregister utf_16_be_decode",
        "builtin|utf_16_be_encode utf_16_decode utf_16_encode utf_16_ex_decode",
        "builtin|utf_16_le_decode utf_16_le_encode utf_32_be_decode utf_32_be_encode",
        "builtin|utf_32_decode utf_32_encode utf_32_ex_decode utf_32_le_decode",
        "builtin|utf_32_le_encode utf_7_decode utf_7_encode utf_8_decode utf_8_encode",
        "builtin|xmlcharrefreplace_errors",
        "class|BufferedIncrementalDecoder BufferedIncrementalEncoder Codec CodecInfo",
        "class|IncrementalDecoder IncrementalEncoder StreamReader StreamReaderWriter",
        "class|StreamRecoder StreamWriter",
        "function|EncodedFile getdecoder getencoder getincrementaldecoder",
        "function|getincrementalencoder getreader getwriter iterdecode iterencode",
        "function|make_encoding_map make_identity_dict open",
        "hidden|BufferedIncrementalDecoder BufferedIncrementalEncoder ascii_decode",
        "hidden|ascii_encode builtins charmap_build charmap_decode charmap_encode",
        "hidden|escape_decode escape_encode latin_1_decode latin_1_encode",
        "hidden|make_encoding_map make_identity_dict raw_unicode_escape_decode",
        "hidden|raw_unicode_escape_encode readbuffer_encode sys unicode_escape_decode",
        "hidden|unicode_escape_encode unregister utf_16_be_decode utf_16_be_encode",
        "hidden|utf_16_decode utf_16_encode utf_16_ex_decode utf_16_le_decode",
        "hidden|utf_16_le_encode utf_32_be_decode utf_32_be_encode utf_32_decode",
        "hidden|utf_32_encode utf_32_ex_decode utf_32_le_decode utf_32_le_encode",
        "hidden|utf_7_decode utf_7_encode utf_8_decode utf_8_encode",
        "module|builtins sys",
        "of bytes|BOM BOM32_BE BOM32_LE BOM64_BE BOM64_LE BOM_BE BOM_LE BOM_UTF16",
        "of bytes|BOM_UTF16_BE BOM_UTF16_LE BOM_UTF32 BOM_UTF32_BE BOM_UTF32_LE BOM_UTF8",
        "of list|__all__"]),
    ("codeop",
      ["class|CommandCompiler Compile",
        "function|compile_command",
        "hidden|PyCF_ALLOW_INCOMPLETE_INPUT PyCF_DONT_IMPLY_DEDENT warnings",
        "module|__future__ warnings",
        "of int|PyCF_ALLOW_INCOMPLETE_INPUT PyCF_DONT_IMPLY_DEDENT",
        "of list|__all__"]),
    ("colorsys",
      ["function|hls_to_rgb hsv_to_rgb rgb_to_hls rgb_to_hsv rgb_to_yiq yiq_to_rgb",
        "hidden|ONE_SIXTH ONE_THIRD TWO_THIRD",
        "of float|ONE_SIXTH ONE_THIRD TWO_THIRD",
        "of list|__all__"]),
    ("compileall",
      ["class|Path=pathlib:Path partial=functools:partial",
        "function|compile_dir compile_file compile_path main",
        "hidden|Path filecmp importlib main os partial py_compile struct sys",
        "module|filecmp importlib os py_compile struct sys",
        "of list|__all__"]),
    ("concurrent", []),
    ("concurrent.futures",
      ["class|Executor=concurrent.futures._base:Executor",
        "class|Future=concurrent.futures._base:Future",
        "class|ProcessPoolExecutor=concurrent.futures.process:ProcessPoolExecutor",
        "class|ThreadPoolExecutor=concurrent.futures.thread:ThreadPoolExecutor",
        "exception|BrokenExecutor=concurrent.futures._base:BrokenExecutor",
        "exception|CancelledError=concurrent.futures._base:CancelledError",
        "exception|TimeoutError=builtins:TimeoutError",
        "function|as_completed wait",
        "of str|ALL_COMPLETED FIRST_COMPLETED FIRST_EXCEPTION __author__"]),
    ("concurrent.futures.process",
      ["class|ProcessPoolExecutor Queue=multiprocessing.queues:Queue",
        "class|partial=functools:partial",
        "exception|BrokenProcessPool",
        "function|format_exception",
        "module|itertools mp=multiprocessing multiprocessing os queue sys threading",
        "module|weakref",
        "of int|EXTRA_QUEUED_CALLS",
        "of str|__author__"]),
    ("concurrent.futures.thread",
      ["class|ThreadPoolExecutor",
        "exception|BrokenThreadPool",
        "module|itertools os queue threading types weakref",
        "of str|__author__"]),
    ("configparser",
      ["class|BasicInterpolation ConfigParser ConverterMapping DuplicateOptionError",
        "class|DuplicateSectionError ExtendedInterpolation Interpolation",
        "class|InterpolationDepthError InterpolationError InterpolationMissingOptionError",
        "class|InterpolationSyntaxError LegacyInterpolation MissingSectionHeaderError",
        "class|MutableMapping=collections.abc:MutableMapping NoOptionError NoSectionError",
        "class|ParsingError RawConfigParser SafeConfigParser SectionProxy",
        "exception|Error",
        "hidden|Error MutableMapping functools io itertools os re sys warnings",
        "module|functools io itertools os re sys warnings",
        "of int|MAX_INTERPOLATION_DEPTH",
        "of list|__all__",
        "of str|DEFAULTSECT"]),
    ("contextvars",
      ["builtin|copy_context",
        "class|Context=_contextvars:Context ContextVar=_contextvars:ContextVar",
        "class|Token=_contextvars:Token",
        "of tuple|__all__"]),
    ("copyreg",
      ["function|__newobj__ __newobj_ex__ add_extension clear_extension_cache",
        "function|constructor pickle pickle_complex pickle_union remove_extension",
        "hidden|dispatch_table pickle_complex pickle_union",
        "of dict|dispatch_table",
        "of list|__all__"]),
    ("crypt",
      ["function|crypt mksalt",
        "module|errno warnings",
        "of _Method|METHOD_BLOWFISH METHOD_CRYPT METHOD_MD5 METHOD_SHA256 METHOD_SHA512",
        "of list|methods"]),
    ("csv",
      ["builtin|field_size_limit get_dialect list_dialects reader register_dialect",
        "builtin|unregister_dialect writer",
        "class|Dialect DictReader DictWriter Sniffer StringIO=_io:StringIO excel",
        "class|excel_tab unix_dialect",
        "exception|Error=_csv:Error",
        "hidden|StringIO re",
        "module|re",
        "of int|QUOTE_ALL QUOTE_MINIMAL QUOTE_NONE QUOTE_NONNUMERIC",
        "of list|__all__",
        "of str|__version__",
        "shown|__doc__ __version__"]),
    ("ctypes",
      ["builtin|POINTER addressof alignment byref get_errno pointer resize set_errno",
        "builtin|sizeof",
        "callable|memmove memset",
        "class|Array=_ctypes:Array BigEndianStructure=ctypes._endian:BigEndianStructure",
        "class|BigEndianUnion=ctypes._endian:BigEndianUnion CDLL LibraryLoader",
        "class|LittleEndianStructure=_ctypes:Structure LittleEndianUnion=_ctypes:Union",
        "class|PyDLL Structure=_ctypes:Structure Union=_ctypes:Union c_bool c_byte c_char",
        "class|c_char_p c_double c_float c_int c_int16=ctypes:c_short",
        "class|c_int32=ctypes:c_int c_int64=ctypes:c_long c_int8=ctypes:c_byte c_long",
        "class|c_longdouble c_longlong=ctypes:c_long c_short c_size_t=ctypes:c_ulong",
        "class|c_ssize_t=ctypes:c_long c_ubyte c_uint c_uint16=ctypes:c_ushort",
        "class|c_uint32=ctypes:c_uint c_uint64=ctypes:c_ulong c_uint8=ctypes:c_ubyte",
        "class|c_ulong c_ulonglong=ctypes:c_ulong c_ushort c_void_p",
        "class|c_voidp=ctypes:c_void_p c_wchar c_wchar_p py_object",
        "exception|ArgumentError",
        "function|ARRAY CFUNCTYPE PYFUNCTYPE SetPointerType c_buffer cast",
        "function|create_string_buffer create_unicode_buffer string_at wstring_at",
        "of LibraryLoader|cdll pydll",
        "of PyDLL|pythonapi",
        "of int|DEFAULT_MODE RTLD_GLOBAL RTLD_LOCAL",
        "of str|__version__"]),
    ("ctypes.util",
      ["function|find_library test",
        "module|os re shutil subprocess sys tempfile"]),
    ("ctypes.wintypes",
      ["class|ATOM=ctypes:c_ushort BOOL=ctypes:c_long BOOLEAN=ctypes:c_byte",
        "class|BYTE=ctypes:c_byte CHAR=ctypes:c_char COLORREF=ctypes:c_ulong",
        "class|DOUBLE=ctypes:c_double DWORD=ctypes:c_ulong FILETIME FLOAT=ctypes:c_float",
        "class|HACCEL=ctypes:c_void_p HANDLE=ctypes:c_void_p HBITMAP=ctypes:c_void_p",
        "class|HBRUSH=ctypes:c_void_p HCOLORSPACE=ctypes:c_void_p HDC=ctypes:c_void_p",
        "class|HDESK=ctypes:c_void_p HDWP=ctypes:c_void_p HENHMETAFILE=ctypes:c_void_p",
        "class|HFONT=ctypes:c_void_p HGDIOBJ=ctypes:c_void_p HGLOBAL=ctypes:c_void_p",
        "class|HHOOK=ctypes:c_void_p HICON=ctypes:c_void_p HINSTANCE=ctypes:c_void_p",
        "class|HKEY=ctypes:c_void_p HKL=ctypes:c_void_p HLOCAL=ctypes:c_void_p",
        "class|HMENU=ctypes:c_void_p HMETAFILE=ctypes:c_void_p HMODULE=ctypes:c_void_p",
        "class|HMONITOR=ctypes:c_void_p HPALETTE=ctypes:c_void_p HPEN=ctypes:c_void_p",
        "class|HRGN=ctypes:c_void_p HRSRC=ctypes:c_void_p HSTR=ctypes:c_void_p",
        "class|HTASK=ctypes:c_void_p HWINSTA=ctypes:c_void_p HWND=ctypes:c_void_p",
        "class|INT=ctypes:c_int LANGID=ctypes:c_ushort LARGE_INTEGER=ctypes:c_long",
        "class|LCID=ctypes:c_ulong LCTYPE=ctypes:c_ulong LGRPID=ctypes:c_ulong",
        "class|LONG=ctypes:c_long LPARAM=ctypes:c_long LPBOOL=ctypes.wintypes:LP_c_long",
        "class|LPBYTE=ctypes.wintypes:LP_c_byte LPCOLESTR=ctypes:c_wchar_p",
        "class|LPCOLORREF=ctypes.wintypes:LP_c_ulong LPCSTR=ctypes:c_char_p",
        "class|LPCVOID=ctypes:c_void_p LPCWSTR=ctypes:c_wchar_p",
        "class|LPDWORD=ctypes.wintypes:LP_c_ulong LPFILETIME=ctypes.wintypes:LP_FILETIME",
        "class|LPHANDLE=ctypes.wintypes:LP_c_void_p LPHKL=ctypes.wintypes:LP_c_void_p",
        "class|LPINT=ctypes.wintypes:LP_c_int LPLONG=ctypes.wintypes:LP_c_long",
        "class|LPMSG=ctypes.wintypes:LP_MSG LPOLESTR=ctypes:c_wchar_p",
        "class|LPPOINT=ctypes.wintypes:LP_POINT LPRECT=ctypes.wintypes:LP_RECT",
        "class|LPRECTL=ctypes.wintypes:LP_RECT LPSC_HANDLE=ctypes.wintypes:LP_c_void_p",
        "class|LPSIZE=ctypes.wintypes:LP_SIZE LPSIZEL=ctypes.wintypes:LP_SIZE",
        "class|LPSTR=ctypes:c_char_p LPUINT=ctypes.wintypes:LP_c_uint",
        "class|LPVOID=ctypes:c_void_p",
        "class|LPWIN32_FIND_DATAA=ctypes.wintypes:LP_WIN32_FIND_DATAA",
        "class|LPWIN32_FIND_DATAW=ctypes.wintypes:LP_WIN32_FIND_DATAW",
        "class|LPWORD=ctypes.wintypes:LP_c_ushort LPWSTR=ctypes:c_wchar_p MSG",
        "class|OLESTR=ctypes:c_wchar_p PBOOL=ctypes.wintypes:LP_c_long",
        "class|PBOOLEAN=ctypes.wintypes:LP_c_byte PBYTE=ctypes.wintypes:LP_c_byte",
        "class|PCHAR=ctypes:LP_c_char PDWORD=ctypes.wintypes:LP_c_ulong",
        "class|PFILETIME=ctypes.wintypes:LP_FILETIME PFLOAT=ctypes.wintypes:LP_c_float",
        "class|PHANDLE=ctypes.wintypes:LP_c_void_p PHKEY=ctypes.wintypes:LP_c_void_p",
        "class|PINT=ctypes.wintypes:LP_c_int PLARGE_INTEGER=ctypes.wintypes:LP_c_long",
        "class|PLCID=ctypes.wintypes:LP_c_ulong PLONG=ctypes.wintypes:LP_c_long",
        "class|PMSG=ctypes.wintypes:LP_MSG POINT POINTL=ctypes.wintypes:POINT",
        "class|PPOINT=ctypes.wintypes:LP_POINT PPOINTL=ctypes.wintypes:LP_POINT",
        "class|PRECT=ctypes.wintypes:LP_RECT PRECTL=ctypes.wintypes:LP_RECT",
        "class|PSHORT=ctypes.wintypes:LP_c_short PSIZE=ctypes.wintypes:LP_SIZE",
        "class|PSIZEL=ctypes.wintypes:LP_SIZE PSMALL_RECT=ctypes.wintypes:LP__SMALL_RECT",
        "class|PUINT=ctypes.wintypes:LP_c_uint PULARGE_INTEGER=ctypes.wintypes:LP_c_ulong",
        "class|PULONG=ctypes.wintypes:LP_c_ulong PUSHORT=ctypes.wintypes:LP_c_ushort",
        "class|PWCHAR=ctypes:LP_c_wchar",
        "class|PWIN32_FIND_DATAA=ctypes.wintypes:LP_WIN32_FIND_DATAA",
        "class|PWIN32_FIND_DATAW=ctypes.wintypes:LP_WIN32_FIND_DATAW",
        "class|PWORD=ctypes.wintypes:LP_c_ushort RECT RECTL=ctypes.wintypes:RECT",
        "class|SC_HANDLE=ctypes:c_void_p SERVICE_STATUS_HANDLE=ctypes:c_void_p",
        "class|SHORT=ctypes:c_short SIZE SIZEL=ctypes.wintypes:SIZE",
        "class|SMALL_RECT=ctypes.wintypes:_SMALL_RECT UINT=ctypes:c_uint",
        "class|ULARGE_INTEGER=ctypes:c_ulong ULONG=ctypes:c_ulong USHORT=ctypes:c_ushort",
        "class|VARIANT_BOOL WCHAR=ctypes:c_wchar WIN32_FIND_DATAA WIN32_FIND_DATAW",
        "class|WORD=ctypes:c_ushort WPARAM=ctypes:c_ulong tagMSG=ctypes.wintypes:MSG",
        "class|tagPOINT=ctypes.wintypes:POINT tagRECT=ctypes.wintypes:RECT",
        "class|tagSIZE=ctypes.wintypes:SIZE",
        "function|RGB",
        "module|ctypes",
        "of int|MAX_PATH"]),
    ("curses",
      ["builtin|baudrate beep can_change_color cbreak color_content color_pair curs_set",
        "builtin|def_prog_mode def_shell_mode delay_output doupdate echo endwin erasechar",
        "builtin|filter flash flushinp get_escdelay get_tabsize getmouse getsyx getwin",
        "builtin|halfdelay has_colors has_extended_color_support has_ic has_il has_key",
        "builtin|init_color init_pair intrflush is_term_resized isendwin keyname killchar",
        "builtin|longname meta mouseinterval mousemask napms newpad newwin nl nocbreak",
        "builtin|noecho nonl noqiflush noraw pair_content pair_number putp qiflush raw",
        "builtin|reset_prog_mode reset_shell_mode resetty resize_term resizeterm savetty",
        "builtin|set_escdelay set_tabsize setsyx setupterm termattrs termname tigetflag",
        "builtin|tigetnum tigetstr tparm typeahead unctrl unget_wch ungetch ungetmouse",
        "builtin|update_lines_cols use_default_colors use_env",
        "class|window=_curses:window",
        "exception|error=_curses:error",
        "function|initscr start_color wrapper",
        "of bytes|version",
        "of curses.ncurses_version|ncurses_version",
        "of int|ALL_MOUSE_EVENTS A_ALTCHARSET A_ATTRIBUTES A_BLINK A_BOLD A_CHARTEXT",
        "of int|A_COLOR A_DIM A_HORIZONTAL A_INVIS A_ITALIC A_LEFT A_LOW A_NORMAL",
        "of int|A_PROTECT A_REVERSE A_RIGHT A_STANDOUT A_TOP A_UNDERLINE A_VERTICAL",
        "of int|BUTTON1_CLICKED BUTTON1_DOUBLE_CLICKED BUTTON1_PRESSED BUTTON1_RELEASED",
        "of int|BUTTON1_TRIPLE_CLICKED BUTTON2_CLICKED BUTTON2_DOUBLE_CLICKED",
        "of int|BUTTON2_PRESSED BUTTON2_RELEASED BUTTON2_TRIPLE_CLICKED BUTTON3_CLICKED",
        "of int|BUTTON3_DOUBLE_CLICKED BUTTON3_PRESSED BUTTON3_RELEASED",
        "of int|BUTTON3_TRIPLE_CLICKED BUTTON4_CLICKED BUTTON4_DOUBLE_CLICKED",
        "of int|BUTTON4_PRESSED BUTTON4_RELEASED BUTTON4_TRIPLE_CLICKED BUTTON5_CLICKED",
        "of int|BUTTON5_DOUBLE_CLICKED BUTTON5_PRESSED BUTTON5_RELEASED",
        "of int|BUTTON5_TRIPLE_CLICKED BUTTON_ALT BUTTON_CTRL BUTTON_SHIFT COLOR_BLACK",
        "of int|COLOR_BLUE COLOR_CYAN COLOR_GREEN COLOR_MAGENTA COLOR_RED COLOR_WHITE",
        "of int|COLOR_YELLOW ERR KEY_A1 KEY_A3 KEY_B2 KEY_BACKSPACE KEY_BEG KEY_BREAK",
        "of int|KEY_BTAB KEY_C1 KEY_C3 KEY_CANCEL KEY_CATAB KEY_CLEAR KEY_CLOSE",
        "of int|KEY_COMMAND KEY_COPY KEY_CREATE KEY_CTAB KEY_DC KEY_DL KEY_DOWN KEY_EIC",
        "of int|KEY_END KEY_ENTER KEY_EOL KEY_EOS KEY_EXIT KEY_F0 KEY_F1 KEY_F10 KEY_F11",
        "of int|KEY_F12 KEY_F13 KEY_F14 KEY_F15 KEY_F16 KEY_F17 KEY_F18 KEY_F19 KEY_F2",
        "of int|KEY_F20 KEY_F21 KEY_F22 KEY_F23 KEY_F24 KEY_F25 KEY_F26 KEY_F27 KEY_F28",
        "of int|KEY_F29 KEY_F3 KEY_F30 KEY_F31 KEY_F32 KEY_F33 KEY_F34 KEY_F35 KEY_F36",
        "of int|KEY_F37 KEY_F38 KEY_F39 KEY_F4 KEY_F40 KEY_F41 KEY_F42 KEY_F43 KEY_F44",
        "of int|KEY_F45 KEY_F46 KEY_F47 KEY_F48 KEY_F49 KEY_F5 KEY_F50 KEY_F51 KEY_F52",
        "of int|KEY_F53 KEY_F54 KEY_F55 KEY_F56 KEY_F57 KEY_F58 KEY_F59 KEY_F6 KEY_F60",
        "of int|KEY_F61 KEY_F62 KEY_F63 KEY_F7 KEY_F8 KEY_F9 KEY_FIND KEY_HELP KEY_HOME",
        "of int|KEY_IC KEY_IL KEY_LEFT KEY_LL KEY_MARK KEY_MAX KEY_MESSAGE KEY_MIN",
        "of int|KEY_MOUSE KEY_MOVE KEY_NEXT KEY_NPAGE KEY_OPEN KEY_OPTIONS KEY_PPAGE",
        "of int|KEY_PREVIOUS KEY_PRINT KEY_REDO KEY_REFERENCE KEY_REFRESH KEY_REPLACE",
        "of int|KEY_RESET KEY_RESIZE KEY_RESTART KEY_RESUME KEY_RIGHT KEY_SAVE KEY_SBEG",
        "of int|KEY_SCANCEL KEY_SCOMMAND KEY_SCOPY KEY_SCREATE KEY_SDC KEY_SDL KEY_SELECT",
        "of int|KEY_SEND KEY_SEOL KEY_SEXIT KEY_SF KEY_SFIND KEY_SHELP KEY_SHOME KEY_SIC",
        "of int|KEY_SLEFT KEY_SMESSAGE KEY_SMOVE KEY_SNEXT KEY_SOPTIONS KEY_SPREVIOUS",
        "of int|KEY_SPRINT KEY_SR KEY_SREDO KEY_SREPLACE KEY_SRESET KEY_SRIGHT KEY_SRSUME",
        "of int|KEY_SSAVE KEY_SSUSPEND KEY_STAB KEY_SUNDO KEY_SUSPEND KEY_UNDO KEY_UP OK",
        "of int|REPORT_MOUSE_POSITION"]),
    ("curses.ascii",
      ["function|alt ascii ctrl isalnum isalpha isascii isblank iscntrl isctrl isdigit",
        "function|isgraph islower ismeta isprint ispunct isspace isupper isxdigit unctrl",
        "of int|ACK BEL BS CAN CR DC1 DC2 DC3 DC4 DEL DLE EM ENQ EOT ESC ETB ETX FF FS GS",
        "of int|HT LF NAK NL NUL RS SI SO SOH SP STX SUB SYN TAB US VT",
        "of list|controlnames"]),
    ("curses.has_key",
      ["function|has_key"]),
    ("curses.panel",
      ["builtin|bottom_panel new_panel top_panel update_panels",
        "class|panel=_curses_panel:panel",
        "exception|error=_curses_panel:error",
        "of str|version"]),
    ("curses.textpad",
      ["class|Textbox",
        "function|rectangle",
        "module|curses"]) ]

def memberDataDToH : List (String × List String) :=
  [ ("dbm",
      ["function|open whichdb",
        "hidden|io ndbm os struct sys",
        "module|io ndbm=dbm.ndbm os struct sys",
        "of list|__all__",
        "of tuple|error"]),
    ("difflib",
      ["class|Differ GenericAlias=types:GenericAlias HtmlDiff Match SequenceMatcher",
        "function|IS_CHARACTER_JUNK IS_LINE_JUNK context_diff diff_bytes",
        "function|get_close_matches ndiff restore unified_diff",
        "hidden|GenericAlias",
        "of list|__all__"]),
    ("dis",
      ["builtin|stack_effect",
        "class|Bytecode Instruction Positions",
        "function|code_info dis disassemble disco distb findlabels findlinestarts",
        "function|get_instructions main pretty_flags show_code",
        "hidden|BINARY_OP CACHE COMPILER_FLAG_NAMES FORMAT_VALUE FORMAT_VALUE_CONVERTERS",
        "hidden|JUMP_BACKWARD LOAD_CONST LOAD_GLOBAL MAKE_FUNCTION MAKE_FUNCTION_FLAGS",
        "hidden|Positions UNKNOWN collections deoptmap io main pretty_flags spec_op",
        "hidden|specialized sys types",
        "module|collections io sys types",
        "of _Unknown|UNKNOWN",
        "of dict|COMPILER_FLAG_NAMES deoptmap opmap",
        "of int|BINARY_OP CACHE EXTENDED_ARG FORMAT_VALUE HAVE_ARGUMENT JUMP_BACKWARD",
        "of int|LOAD_CONST LOAD_GLOBAL MAKE_FUNCTION spec_op",
        "of list|__all__ hascompare hasconst hasfree hasjabs hasjrel haslocal hasname",
        "of list|hasnargs opname",
        "of str|specialized",
        "of tuple|FORMAT_VALUE_CONVERTERS MAKE_FUNCTION_FLAGS cmp_op"]),
    ("doctest",
      ["class|DebugRunner DocFileCase DocTest DocTestCase DocTestFailure DocTestFinder",
        "class|DocTestParser DocTestRunner Example",
        "class|IncrementalNewlineDecoder=_io:IncrementalNewlineDecoder OutputChecker",
        "class|SkipDocTestCase StringIO=_io:StringIO TestResults UnexpectedException",
        "function|DocFileSuite DocFileTest DocTestSuite debug debug_script debug_src",
        "function|namedtuple register_optionflag run_docstring_examples",
        "function|script_from_examples set_unittest_reportflags testfile testmod",
        "function|testsource",
        "hidden|BLANKLINE_MARKER DocFileCase DocFileTest DocTestCase ELLIPSIS_MARKER",
        "hidden|IncrementalNewlineDecoder OPTIONFLAGS_BY_NAME SkipDocTestCase StringIO",
        "hidden|TestResults debug_script difflib inspect linecache master namedtuple os",
        "hidden|pdb re sys traceback unittest",
        "module|__future__ difflib inspect linecache os pdb re sys traceback unittest",
        "of NoneType|master",
        "of dict|OPTIONFLAGS_BY_NAME __test__",
        "of int|COMPARISON_FLAGS DONT_ACCEPT_BLANKLINE DONT_ACCEPT_TRUE_FOR_1 ELLIPSIS",
        "of int|FAIL_FAST IGNORE_EXCEPTION_DETAIL NORMALIZE_WHITESPACE REPORTING_FLAGS",
        "of int|REPORT_CDIFF REPORT_NDIFF REPORT_ONLY_FIRST_FAILURE REPORT_UDIFF SKIP",
        "of list|__all__",
        "of str|BLANKLINE_MARKER ELLIPSIS_MARKER __docformat__"]),
    ("email",
      ["function|message_from_binary_file message_from_bytes message_from_file",
        "function|message_from_string",
        "of list|__all__"]),
    ("email.base64mime",
      ["builtin|a2b_base64 b2a_base64",
        "function|b64encode body_decode body_encode decode decodestring header_encode",
        "function|header_length",
        "hidden|CRLF EMPTYSTRING MISC_LEN NL a2b_base64 b2a_base64 b64encode",
        "of int|MISC_LEN",
        "of list|__all__",
        "of str|CRLF EMPTYSTRING NL"]),
    ("email.charset",
      ["class|Charset partial=functools:partial",
        "function|add_alias add_charset add_codec encode_7or8bit",
        "hidden|ALIASES BASE64 CHARSETS CODEC_MAP DEFAULT_CHARSET EMPTYSTRING QP",
        "hidden|RFC2047_CHROME_LEN SHORTEST UNKNOWN8BIT email encode_7or8bit errors",
        "hidden|partial",
        "module|email errors=email.errors",
        "of dict|ALIASES CHARSETS CODEC_MAP",
        "of int|BASE64 QP RFC2047_CHROME_LEN SHORTEST",
        "of list|__all__",
        "of str|DEFAULT_CHARSET EMPTYSTRING UNKNOWN8BIT"]),
    ("email.contentmanager",
      ["class|ContentManager",
        "function|get_and_fixup_unknown_message_content get_message_content",
        "function|get_non_text_content get_text_content set_bytes_content",
        "function|set_message_content set_text_content",
        "module|binascii email quoprimime=email.quoprimime",
        "of ContentManager|raw_data_manager"]),
    ("email.encoders",
      ["function|encode_7or8bit encode_base64 encode_noop encode_quopri",
        "of list|__all__"]),
    ("email.errors",
      ["class|NonPrintableDefect",
        "exception|BoundaryError CharsetError CloseBoundaryNotFoundDefect",
        "exception|FirstHeaderLineIsContinuationDefect HeaderDefect",
        "exception|HeaderMissingRequiredValue HeaderParseError HeaderWriteError",
        "exception|InvalidBase64CharactersDefect InvalidBase64LengthDefect",
        "exception|InvalidBase64PaddingDefect InvalidDateDefect InvalidHeaderDefect",
        "exception|InvalidMultipartContentTransferEncodingDefect",
        "exception|MalformedHeaderDefect=email.errors:MissingHeaderBodySeparatorDefect",
        "exception|MessageDefect MessageError MessageParseError",
        "exception|MisplacedEnvelopeHeaderDefect MissingHeaderBodySeparatorDefect",
        "exception|MultipartConversionError MultipartInvariantViolationDefect",
        "exception|NoBoundaryInMultipartDefect NonASCIILocalPartDefect",
        "exception|ObsoleteHeaderDefect StartBoundaryNotFoundDefect",
        "exception|UndecodableBytesDefect"]),
    ("email.feedparser",
      ["class|BufferedSubFile BytesFeedParser FeedParser StringIO=_io:StringIO",
        "class|deque=collections:deque",
        "hidden|BufferedSubFile EMPTYSTRING NL NLCRE NLCRE_bol NLCRE_crack NLCRE_eol",
        "hidden|NeedMoreData StringIO compat32 deque errors headerRE re",
        "module|errors=email.errors re",
        "of Compat32|compat32",
        "of list|__all__",
        "of object|NeedMoreData",
        "of re.Pattern|NLCRE NLCRE_bol NLCRE_crack NLCRE_eol headerRE",
        "of str|EMPTYSTRING NL"]),
    ("email.generator",
      ["class|BytesGenerator BytesIO=_io:BytesIO DecodedGenerator Generator",
        "class|StringIO=_io:StringIO",
        "exception|HeaderWriteError=email.errors:HeaderWriteError",
        "function|deepcopy",
        "hidden|BytesIO HeaderWriteError NEWLINE_WITHOUT_FWSP NL NLCRE StringIO",
        "hidden|UNDERSCORE deepcopy fcre random re sys time",
        "module|random re sys time",
        "of list|__all__",
        "of re.Pattern|NEWLINE_WITHOUT_FWSP NLCRE fcre",
        "of str|NL UNDERSCORE"]),
    ("email.header",
      ["class|Charset=email.charset:Charset Header",
        "exception|HeaderParseError=email.errors:HeaderParseError",
        "function|decode_header make_header",
        "hidden|BSPACE Charset EMPTYSTRING FWS HeaderParseError MAXLINELEN NL SPACE",
        "hidden|SPACE8 USASCII UTF8 binascii ecre email fcre re",
        "module|binascii email re",
        "of Charset|USASCII UTF8",
        "of bytes|BSPACE",
        "of int|MAXLINELEN",
        "of list|__all__",
        "of re.Pattern|ecre fcre",
        "of str|EMPTYSTRING FWS NL SPACE SPACE8"]),
    ("email.headerregistry",
      ["class|Address AddressHeader BaseHeader ContentDispositionHeader",
        "class|ContentTransferEncodingHeader ContentTypeHeader DateHeader Group",
        "class|HeaderRegistry MIMEVersionHeader MappingProxyType=builtins:mappingproxy",
        "class|MessageIDHeader ParameterizedMIMEHeader SingleAddressHeader",
        "class|UniqueAddressHeader UniqueDateHeader UniqueSingleAddressHeader",
        "class|UniqueUnstructuredHeader UnstructuredHeader",
        "module|errors=email.errors parser=email._header_value_parser utils=email.utils"]),
    ("email.iterators",
      ["class|StringIO=_io:StringIO",
        "function|body_line_iterator typed_subpart_iterator walk",
        "hidden|StringIO sys",
        "module|sys",
        "of list|__all__"]),
    ("email.message",
      ["class|BytesIO=_io:BytesIO Charset=email.charset:Charset EmailMessage MIMEPart",
        "class|Message Policy=email._policybase:Policy StringIO=_io:StringIO",
        "function|decode_b",
        "hidden|BytesIO Charset MIMEPart Policy SEMISPACE StringIO binascii compat32",
        "hidden|decode_b errors quopri re tspecials utils",
        "module|binascii errors=email.errors quopri re utils=email.utils",
        "of Compat32|compat32",
        "of list|__all__",
        "of re.Pattern|tspecials",
        "of str|SEMISPACE"]),
    ("email.mime", []),
    ("email.mime.application",
      ["class|MIMEApplication MIMENonMultipart=email.mime.nonmultipart:MIMENonMultipart",
        "hidden|MIMENonMultipart encoders",
        "module|encoders=email.encoders",
        "of list|__all__"]),
    ("email.mime.audio",
      ["class|BytesIO=_io:BytesIO MIMEAudio",
        "class|MIMENonMultipart=email.mime.nonmultipart:MIMENonMultipart",
        "function|rule",
        "hidden|BytesIO MIMENonMultipart encoders rule",
        "module|encoders=email.encoders",
        "of list|__all__"]),
    ("email.mime.base",
      ["class|MIMEBase",
        "hidden|email message",
        "module|email message=email.message",
        "of list|__all__"]),
    ("email.mime.image",
      ["class|MIMEImage MIMENonMultipart=email.mime.nonmultipart:MIMENonMultipart",
        "function|rule",
        "hidden|MIMENonMultipart encoders rule",
        "module|encoders=email.encoders",
        "of list|__all__"]),
    ("email.mime.message",
      ["class|MIMEMessage MIMENonMultipart=email.mime.nonmultipart:MIMENonMultipart",
        "hidden|MIMENonMultipart message",
        "module|message=email.message",
        "of list|__all__"]),
    ("email.mime.multipart",
      ["class|MIMEBase=email.mime.base:MIMEBase MIMEMultipart",
        "hidden|MIMEBase",
        "of list|__all__"]),
    ("email.mime.nonmultipart",
      ["class|MIMEBase=email.mime.base:MIMEBase MIMENonMultipart",
        "hidden|MIMEBase errors",
        "module|errors=email.errors",
        "of list|__all__"]),
    ("email.mime.text",
      ["class|Charset=email.charset:Charset",
        "class|MIMENonMultipart=email.mime.nonmultipart:MIMENonMultipart MIMEText",
        "hidden|Charset MIMENonMultipart",
        "of list|__all__"]),
    ("email.parser",
      ["class|BytesFeedParser=email.feedparser:BytesFeedParser BytesHeaderParser",
        "class|BytesParser FeedParser=email.feedparser:FeedParser HeaderParser Parser",
        "class|StringIO=_io:StringIO TextIOWrapper=_io:TextIOWrapper",
        "hidden|StringIO TextIOWrapper compat32",
        "of Compat32|compat32",
        "of list|__all__"]),
    ("email.policy",
      ["class|Compat32=email._policybase:Compat32",
        "class|EmailMessage=email.message:EmailMessage EmailPolicy",
        "class|HeaderRegistry=email.headerregistry:HeaderRegistry",
        "class|Policy=email._policybase:Policy",
        "hidden|EmailMessage HeaderRegistry SMTPUTF8 linesep_splitter raw_data_manager re",
        "hidden|sys",
        "module|re sys",
        "of Compat32|compat32",
        "of ContentManager|raw_data_manager",
        "of EmailPolicy|HTTP SMTP SMTPUTF8 default strict",
        "of list|__all__",
        "of re.Pattern|linesep_splitter"]),
    ("email.quoprimime",
      ["function|body_check body_decode body_encode body_length decode decodestring",
        "function|header_check header_decode header_encode header_length quote unquote",
        "hidden|CRLF EMPTYSTRING NL ascii_letters body_check digits header_check",
        "hidden|hexdigits re",
        "module|re",
        "of list|__all__",
        "of str|CRLF EMPTYSTRING NL ascii_letters digits hexdigits"]),
    ("email.utils",
      ["class|Charset=email.charset:Charset",
        "function|collapse_rfc2231_value decode_params decode_rfc2231 encode_rfc2231",
        "function|format_datetime formataddr formatdate getaddresses localtime make_msgid",
        "function|mktime_tz parseaddr parsedate parsedate_to_datetime parsedate_tz quote",
        "function|unquote",
        "hidden|COMMASPACE CRLF Charset EMPTYSTRING TICK UEMPTYSTRING datetime escapesre",
        "hidden|localtime os quote random re rfc2231_continuation socket specialsre",
        "hidden|supports_strict_parsing time urllib",
        "module|datetime os random re socket time urllib",
        "of bool|supports_strict_parsing",
        "of list|__all__",
        "of re.Pattern|escapesre rfc2231_continuation specialsre",
        "of str|COMMASPACE CRLF EMPTYSTRING TICK UEMPTYSTRING"]),
    ("encodings",
      ["exception|CodecRegistryError",
        "function|normalize_encoding search_function",
        "module|aliases=encodings.aliases codecs sys utf_8=encodings.utf_8"]),
    ("encodings.aliases",
      ["of dict|aliases"]),
    ("encodings.utf_8",
      ["builtin|encode",
        "class|IncrementalDecoder IncrementalEncoder StreamReader StreamWriter",
        "function|decode getregentry",
        "module|codecs"]),
    ("errno",
      ["of dict|errorcode",
        "of int|E2BIG EACCES EADDRINUSE EADDRNOTAVAIL EADV EAFNOSUPPORT EAGAIN EALREADY",
        "of int|EBADE EBADF EBADFD EBADMSG EBADR EBADRQC EBADSLT EBFONT EBUSY ECANCELED",
        "of int|ECHILD ECHRNG ECOMM ECONNABORTED ECONNREFUSED ECONNRESET EDEADLK",
        "of int|EDEADLOCK EDESTADDRREQ EDOM EDOTDOT EDQUOT EEXIST EFAULT EFBIG EHOSTDOWN",
        "of int|EHOSTUNREACH EIDRM EILSEQ EINPROGRESS EINTR EINVAL EIO EISCONN EISDIR",
        "of int|EISNAM EKEYEXPIRED EKEYREJECTED EKEYREVOKED EL2HLT EL2NSYNC EL3HLT EL3RST",
        "of int|ELIBACC ELIBBAD ELIBEXEC ELIBMAX ELIBSCN ELNRNG ELOOP EMEDIUMTYPE EMFILE",
        "of int|EMLINK EMSGSIZE EMULTIHOP ENAMETOOLONG ENAVAIL ENETDOWN ENETRESET",
        "of int|ENETUNREACH ENFILE ENOANO ENOBUFS ENOCSI ENODATA ENODEV ENOENT ENOEXEC",
        "of int|ENOKEY ENOLCK ENOLINK ENOMEDIUM ENOMEM ENOMSG ENONET ENOPKG ENOPROTOOPT",
        "of int|ENOSPC ENOSR ENOSTR ENOSYS ENOTBLK ENOTCONN ENOTDIR ENOTEMPTY ENOTNAM",
        "of int|ENOTRECOVERABLE ENOTSOCK ENOTSUP ENOTTY ENOTUNIQ ENXIO EOPNOTSUPP",
        "of int|EOVERFLOW EOWNERDEAD EPERM EPFNOSUPPORT EPIPE EPROTO EPROTONOSUPPORT",
        "of int|EPROTOTYPE ERANGE EREMCHG EREMOTE EREMOTEIO ERESTART ERFKILL EROFS",
        "of int|ESHUTDOWN ESOCKTNOSUPPORT ESPIPE ESRCH ESRMNT ESTALE ESTRPIPE ETIME",
        "of int|ETIMEDOUT ETOOMANYREFS ETXTBSY EUCLEAN EUNATCH EUSERS EWOULDBLOCK EXDEV",
        "of int|EXFULL"]),
    ("faulthandler",
      ["builtin|cancel_dump_traceback_later disable dump_traceback dump_traceback_later",
        "builtin|enable is_enabled register unregister"]),
    ("fcntl",
      ["builtin|fcntl flock ioctl lockf",
        "of int|DN_ACCESS DN_ATTRIB DN_CREATE DN_DELETE DN_MODIFY DN_MULTISHOT DN_RENAME",
        "of int|FASYNC FD_CLOEXEC F_DUPFD F_DUPFD_CLOEXEC F_EXLCK F_GETFD F_GETFL",
        "of int|F_GETLEASE F_GETLK F_GETLK64 F_GETOWN F_GETPIPE_SZ F_GETSIG F_NOTIFY",
        "of int|F_RDLCK F_SETFD F_SETFL F_SETLEASE F_SETLK F_SETLK64 F_SETLKW F_SETLKW64",
        "of int|F_SETOWN F_SETPIPE_SZ F_SETSIG F_SHLCK F_UNLCK F_WRLCK I_ATMARK I_CANPUT",
        "of int|I_CKBAND I_FDINSERT I_FIND I_FLUSH I_FLUSHBAND I_GETBAND I_GETCLTIME",
        "of int|I_GETSIG I_GRDOPT I_GWROPT I_LINK I_LIST I_LOOK I_NREAD I_PEEK I_PLINK",
        "of int|I_POP I_PUNLINK I_PUSH I_RECVFD I_SENDFD I_SETCLTIME I_SETSIG I_SRDOPT",
        "of int|I_STR I_SWROPT I_UNLINK LOCK_EX LOCK_MAND LOCK_NB LOCK_READ LOCK_RW",
        "of int|LOCK_SH LOCK_UN LOCK_WRITE"]),
    ("filecmp",
      ["class|GenericAlias=types:GenericAlias dircmp filterfalse=itertools:filterfalse",
        "function|clear_cache cmp cmpfiles demo",
        "hidden|BUFSIZE GenericAlias demo filterfalse os stat",
        "module|os stat",
        "of int|BUFSIZE",
        "of list|DEFAULT_IGNORES __all__"]),
    ("fileinput",
      ["class|FileInput GenericAlias=types:GenericAlias",
        "function|close filelineno filename fileno hook_compressed hook_encoded input",
        "function|isfirstline isstdin lineno nextfile",
        "hidden|GenericAlias io os sys",
        "module|io os sys",
        "of list|__all__"]),
    ("fnmatch",
      ["function|filter fnmatch fnmatchcase translate",
        "hidden|functools os posixpath re",
        "module|functools os posixpath re",
        "of list|__all__"]),
    ("ftplib",
      ["class|FTP FTP_TLS",
        "exception|Error error_perm error_proto error_reply error_temp",
        "function|ftpcp parse150 parse227 parse229 parse257 print_line test",
        "hidden|B_CRLF CRLF Error FTP_PORT MAXLINE MSG_OOB ftpcp parse150 parse227",
        "hidden|parse229 parse257 print_line socket ssl sys test",
        "module|socket ssl sys",
        "of bytes|B_CRLF",
        "of int|FTP_PORT MAXLINE MSG_OOB",
        "of list|__all__",
        "of str|CRLF",
        "of tuple|all_errors"]),
    ("gc",
      ["builtin|collect disable enable freeze get_count get_debug get_freeze_count",
        "builtin|get_objects get_referents get_referrers get_stats get_threshold",
        "builtin|is_finalized is_tracked isenabled set_debug set_threshold unfreeze",
        "of int|DEBUG_COLLECTABLE DEBUG_LEAK DEBUG_SAVEALL DEBUG_STATS",
        "of int|DEBUG_UNCOLLECTABLE",
        "of list|callbacks garbage"]),
    ("genericpath",
      ["function|commonprefix exists getatime getctime getmtime getsize isdir isfile",
        "function|samefile sameopenfile samestat",
        "hidden|os stat",
        "module|os stat",
        "of list|__all__"]),
    ("getopt",
      ["exception|GetoptError error=getopt:GetoptError",
        "function|do_longs do_shorts getopt gnu_getopt long_has_args short_has_arg",
        "hidden|do_longs do_shorts long_has_args os short_has_arg",
        "module|os",
        "of list|__all__"]),
    ("getpass",
      ["exception|GetPassWarning",
        "function|fallback_getpass getpass getuser unix_getpass win_getpass",
        "hidden|contextlib fallback_getpass io os sys termios unix_getpass warnings",
        "hidden|win_getpass",
        "module|contextlib io os sys termios warnings",
        "of list|__all__"]),
    ("gettext",
      ["class|GNUTranslations NullTranslations",
        "function|Catalog bindtextdomain c2py dgettext dngettext dnpgettext dpgettext",
        "function|find gettext install ngettext npgettext pgettext textdomain translation",
        "hidden|c2py operator os re sys",
        "module|operator os re sys",
        "of list|__all__"]),
    ("glob",
      ["function|escape glob glob0 glob1 has_magic iglob",
        "hidden|contextlib fnmatch glob0 glob1 has_magic itertools magic_check",
        "hidden|magic_check_bytes os re stat sys",
        "module|contextlib fnmatch itertools os re stat sys",
        "of list|__all__",
        "of re.Pattern|magic_check magic_check_bytes"]),
    ("graphlib",
      ["class|GenericAlias=types:GenericAlias TopologicalSorter",
        "exception|CycleError",
        "hidden|GenericAlias",
        "of list|__all__"]),
    ("grp",
      ["builtin|getgrall getgrgid getgrnam",
        "class|struct_group"]),
    ("gzip",
      ["class|GzipFile",
        "exception|BadGzipFile",
        "function|compress decompress main open write32u",
        "hidden|FCOMMENT FEXTRA FHCRC FNAME FTEXT READ WRITE builtins io main os struct",
        "hidden|sys time write32u zlib",
        "module|builtins io os struct sys time zlib",
        "of int|FCOMMENT FEXTRA FHCRC FNAME FTEXT READ WRITE",
        "of list|__all__"]),
    ("hmac",
      ["builtin|compare_digest",
        "class|HMAC",
        "function|digest new",
        "of NoneType|digest_size",
        "of bytes|trans_36 trans_5C"]),
    ("html.entities",
      ["of dict|codepoint2name entitydefs html5 name2codepoint",
        "of list|__all__"]),
    ("html.parser",
      ["class|HTMLParser",
        "function|unescape",
        "hidden|attrfind_tolerant charref commentclose endendtag endtagfind entityref",
        "hidden|incomplete interesting_normal locatestarttagend_tolerant piclose re",
        "hidden|starttagopen tagfind_tolerant unescape",
        "module|re",
        "of list|__all__",
        "of re.Pattern|attrfind_tolerant charref commentclose endendtag endtagfind",
        "of re.Pattern|entityref incomplete interesting_normal locatestarttagend_tolerant",
        "of re.Pattern|piclose starttagopen tagfind_tolerant"]),
    ("http",
      ["class|HTTPMethod HTTPStatus IntEnum=enum:IntEnum StrEnum=enum:StrEnum",
        "hidden|IntEnum StrEnum",
        "of list|__all__"]),
    ("http.client",
      ["callable|urlsplit",
        "class|BadStatusLine HTTPConnection HTTPMessage HTTPResponse HTTPSConnection",
        "class|IncompleteRead LineTooLong",
        "exception|CannotSendHeader CannotSendRequest HTTPException",
        "exception|ImproperConnectionState InvalidURL NotConnected RemoteDisconnected",
        "exception|ResponseNotReady UnimplementedFileMode UnknownProtocol",
        "exception|UnknownTransferEncoding error=http.client:HTTPException",
        "function|parse_headers",
        "hidden|ACCEPTED ALREADY_REPORTED BAD_GATEWAY BAD_REQUEST CONFLICT CONTINUE",
        "hidden|CREATED EARLY_HINTS EXPECTATION_FAILED FAILED_DEPENDENCY FORBIDDEN FOUND",
        "hidden|GATEWAY_TIMEOUT GONE HTTPMessage HTTPS_PORT HTTP_PORT",
        "hidden|HTTP_VERSION_NOT_SUPPORTED IM_A_TEAPOT IM_USED INSUFFICIENT_STORAGE",
        "hidden|INTERNAL_SERVER_ERROR LENGTH_REQUIRED LOCKED LOOP_DETECTED",
        "hidden|METHOD_NOT_ALLOWED MISDIRECTED_REQUEST MOVED_PERMANENTLY MULTIPLE_CHOICES",
        "hidden|MULTI_STATUS NETWORK_AUTHENTICATION_REQUIRED",
        "hidden|NON_AUTHORITATIVE_INFORMATION NOT_ACCEPTABLE NOT_EXTENDED NOT_FOUND",
        "hidden|NOT_IMPLEMENTED NOT_MODIFIED NO_CONTENT OK PARTIAL_CONTENT",
        "hidden|PAYMENT_REQUIRED PERMANENT_REDIRECT PRECONDITION_FAILED",
        "hidden|PRECONDITION_REQUIRED PROCESSING PROXY_AUTHENTICATION_REQUIRED",
        "hidden|REQUESTED_RANGE_NOT_SATISFIABLE REQUEST_ENTITY_TOO_LARGE",
        "hidden|REQUEST_HEADER_FIELDS_TOO_LARGE REQUEST_TIMEOUT REQUEST_URI_TOO_LONG",
        "hidden|RESET_CONTENT SEE_OTHER SERVICE_UNAVAILABLE SWITCHING_PROTOCOLS",
        "hidden|TEMPORARY_REDIRECT TOO_EARLY TOO_MANY_REQUESTS UNAUTHORIZED",
        "hidden|UNAVAILABLE_FOR_LEGAL_REASONS UNPROCESSABLE_ENTITY UNSUPPORTED_MEDIA_TYPE",
        "hidden|UPGRADE_REQUIRED USE_PROXY VARIANT_ALSO_NEGOTIATES collections email",
        "hidden|errno http io parse_headers re socket ssl sys urlsplit",
        "module|collections email errno http io re socket ssl sys",
        "of HTTPStatus|ACCEPTED ALREADY_REPORTED BAD_GATEWAY BAD_REQUEST CONFLICT",
        "of HTTPStatus|CONTINUE CREATED EARLY_HINTS EXPECTATION_FAILED FAILED_DEPENDENCY",
        "of HTTPStatus|FORBIDDEN FOUND GATEWAY_TIMEOUT GONE HTTP_VERSION_NOT_SUPPORTED",
        "of HTTPStatus|IM_A_TEAPOT IM_USED INSUFFICIENT_STORAGE INTERNAL_SERVER_ERROR",
        "of HTTPStatus|LENGTH_REQUIRED LOCKED LOOP_DETECTED METHOD_NOT_ALLOWED",
        "of HTTPStatus|MISDIRECTED_REQUEST MOVED_PERMANENTLY MULTIPLE_CHOICES",
        "of HTTPStatus|MULTI_STATUS NETWORK_AUTHENTICATION_REQUIRED",
        "of HTTPStatus|NON_AUTHORITATIVE_INFORMATION NOT_ACCEPTABLE NOT_EXTENDED",
        "of HTTPStatus|NOT_FOUND NOT_IMPLEMENTED NOT_MODIFIED NO_CONTENT OK",
        "of HTTPStatus|PARTIAL_CONTENT PAYMENT_REQUIRED PERMANENT_REDIRECT",
        "of HTTPStatus|PRECONDITION_FAILED PRECONDITION_REQUIRED PROCESSING",
        "of HTTPStatus|PROXY_AUTHENTICATION_REQUIRED REQUESTED_RANGE_NOT_SATISFIABLE",
        "of HTTPStatus|REQUEST_ENTITY_TOO_LARGE REQUEST_HEADER_FIELDS_TOO_LARGE",
        "of HTTPStatus|REQUEST_TIMEOUT REQUEST_URI_TOO_LONG RESET_CONTENT SEE_OTHER",
        "of HTTPStatus|SERVICE_UNAVAILABLE SWITCHING_PROTOCOLS TEMPORARY_REDIRECT",
        "of HTTPStatus|TOO_EARLY TOO_MANY_REQUESTS UNAUTHORIZED",
        "of HTTPStatus|UNAVAILABLE_FOR_LEGAL_REASONS UNPROCESSABLE_ENTITY",
        "of HTTPStatus|UNSUPPORTED_MEDIA_TYPE UPGRADE_REQUIRED USE_PROXY",
        "of HTTPStatus|VARIANT_ALSO_NEGOTIATES",
        "of dict|responses",
        "of int|HTTPS_PORT HTTP_PORT",
        "of list|__all__"]),
    ("http.cookiejar",
      ["class|Absent Cookie CookieJar CookiePolicy DefaultCookiePolicy FileCookieJar",
        "class|LWPCookieJar MozillaCookieJar",
        "exception|LoadError",
        "function|deepvalues domain_match eff_request_host escape_path http2time is_HDN",
        "function|is_third_party iso2time join_header_words liberal_is_HDN lwp_cookie_str",
        "function|offset_from_tz_string parse_ns_headers reach request_host request_path",
        "function|request_port split_header_words strip_quotes time2isoz time2netscape",
        "function|timegm unmatched uppercase_escaped_char user_domain_match",
        "hidden|Absent DAYS DEFAULT_HTTP_PORT EPOCH_YEAR ESCAPED_CHAR_RE HEADER_ESCAPE_RE",
        "hidden|HEADER_JOIN_ESCAPE_RE HEADER_QUOTED_VALUE_RE HEADER_TOKEN_RE",
        "hidden|HEADER_VALUE_RE HTTPONLY_ATTR HTTPONLY_PREFIX HTTP_PATH_SAFE IPV4_RE",
        "hidden|ISO_DATE_RE LOOSE_HTTP_DATE_RE MISSING_FILENAME_TEXT MONTHS MONTHS_LOWER",
        "hidden|NETSCAPE_HEADER_TEXT NETSCAPE_MAGIC_RGX STRICT_DATE_RE TIMEZONE_RE",
        "hidden|UTC_ZONES WEEKDAY_RE copy cut_port_re datetime debug deepvalues",
        "hidden|domain_match eff_request_host escape_path http http2time is_HDN",
        "hidden|is_third_party iso2time join_header_words liberal_is_HDN logger",
        "hidden|lwp_cookie_str offset_from_tz_string os parse_ns_headers re reach",
        "hidden|request_host request_path request_port split_header_words strip_quotes",
        "hidden|time time2isoz time2netscape timegm unmatched uppercase_escaped_char",
        "hidden|urllib user_domain_match",
        "module|copy datetime http os re time urllib",
        "of NoneType|logger",
        "of bool|debug",
        "of dict|UTC_ZONES",
        "of int|EPOCH_YEAR",
        "of list|DAYS MONTHS MONTHS_LOWER __all__",
        "of re.Pattern|ESCAPED_CHAR_RE HEADER_ESCAPE_RE HEADER_JOIN_ESCAPE_RE",
        "of re.Pattern|HEADER_QUOTED_VALUE_RE HEADER_TOKEN_RE HEADER_VALUE_RE IPV4_RE",
        "of re.Pattern|ISO_DATE_RE LOOSE_HTTP_DATE_RE NETSCAPE_MAGIC_RGX STRICT_DATE_RE",
        "of re.Pattern|TIMEZONE_RE WEEKDAY_RE cut_port_re",
        "of str|DEFAULT_HTTP_PORT HTTPONLY_ATTR HTTPONLY_PREFIX HTTP_PATH_SAFE",
        "of str|MISSING_FILENAME_TEXT NETSCAPE_HEADER_TEXT"]),
    ("http.cookies",
      ["class|BaseCookie Morsel SimpleCookie",
        "exception|CookieError",
        "hidden|Morsel re string types",
        "module|re string types",
        "of list|__all__"]),
    ("http.server",
      ["class|BaseHTTPRequestHandler CGIHTTPRequestHandler HTTPServer",
        "class|HTTPStatus=http:HTTPStatus SimpleHTTPRequestHandler ThreadingHTTPServer",
        "function|executable nobody_uid test",
        "hidden|DEFAULT_ERROR_CONTENT_TYPE DEFAULT_ERROR_MESSAGE HTTPStatus copy datetime",
        "hidden|email executable html http io itertools mimetypes nobody nobody_uid os",
        "hidden|posixpath select shutil socket socketserver sys test time urllib",
        "module|copy datetime email html http io itertools mimetypes os posixpath select",
        "module|shutil socket socketserver sys time urllib",
        "of NoneType|nobody",
        "of list|__all__",
        "of str|DEFAULT_ERROR_CONTENT_TYPE DEFAULT_ERROR_MESSAGE __version__"]) ]

def memberDataIToM : List (String × List String) :=
  [ ("imaplib",
      ["class|IMAP4 IMAP4_SSL IMAP4_stream datetime=datetime:datetime",
        "class|timedelta=datetime:timedelta timezone=datetime:timezone",
        "function|Int2AP Internaldate2tuple ParseFlags Time2Internaldate",
        "hidden|AllowedVersions CRLF Commands Continuation DEFAULT_BUFFER_SIZE Debug",
        "hidden|Flags HAVE_SSL IMAP4_PORT IMAP4_SSL_PORT InternalDate Literal MapCRLF",
        "hidden|Mon2num Months Response_code Untagged_response Untagged_status binascii",
        "hidden|calendar datetime errno random re socket ssl subprocess sys time",
        "hidden|timedelta timezone",
        "module|binascii calendar errno random re socket ssl subprocess sys time",
        "of bool|HAVE_SSL",
        "of bytes|CRLF",
        "of dict|Commands Mon2num",
        "of int|DEFAULT_BUFFER_SIZE Debug IMAP4_PORT IMAP4_SSL_PORT",
        "of list|Months __all__",
        "of re.Pattern|Continuation Flags InternalDate Literal MapCRLF Response_code",
        "of re.Pattern|Untagged_response Untagged_status",
        "of str|__version__",
        "of tuple|AllowedVersions"]),
    ("imghdr",
      ["class|PathLike=os:PathLike",
        "function|test test_bmp test_exr test_gif test_jpeg test_pbm test_pgm test_png",
        "function|test_ppm test_rast test_rgb test_tiff test_webp test_xbm testall what",
        "hidden|PathLike test test_bmp test_exr test_gif test_jpeg test_pbm test_pgm",
        "hidden|test_png test_ppm test_rast test_rgb test_tiff test_webp test_xbm testall",
        "hidden|tests warnings",
        "module|warnings",
        "of list|__all__ tests"]),
    ("imp",
      ["builtin|acquire_lock create_dynamic get_frozen_object init_frozen is_builtin",
        "builtin|is_frozen is_frozen_package lock_held release_lock",
        "class|NullImporter",
        "class|SourcelessFileLoader=_frozen_importlib_external:SourcelessFileLoader",
        "function|cache_from_source find_module get_magic get_suffixes get_tag",
        "function|init_builtin load_compiled load_dynamic load_module load_package",
        "function|load_source new_module reload source_from_cache",
        "module|importlib machinery=importlib.machinery os sys tokenize types",
        "module|util=importlib.util warnings",
        "of int|C_BUILTIN C_EXTENSION IMP_HOOK PKG_DIRECTORY PY_CODERESOURCE PY_COMPILED",
        "of int|PY_FROZEN PY_RESOURCE PY_SOURCE SEARCH_ERROR"]),
    ("importlib.abc",
      ["class|ExecutionLoader FileLoader Finder InspectLoader",
        "class|Loader=importlib._abc:Loader MetaPathFinder PathEntryFinder ResourceLoader",
        "class|ResourceReader=importlib.resources.abc:ResourceReader SourceLoader",
        "class|Traversable=importlib.resources.abc:Traversable",
        "class|TraversableResources=importlib.resources.abc:TraversableResources",
        "hidden|abc machinery warnings",
        "module|abc machinery=importlib.machinery warnings",
        "of list|__all__"]),
    ("importlib.machinery",
      ["class|BuiltinImporter=_frozen_importlib:BuiltinImporter",
        "class|ExtensionFileLoader=_frozen_importlib_external:ExtensionFileLoader",
        "class|FileFinder=_frozen_importlib_external:FileFinder",
        "class|FrozenImporter=_frozen_importlib:FrozenImporter",
        "class|ModuleSpec=_frozen_importlib:ModuleSpec",
        "class|NamespaceLoader=_frozen_importlib_external:NamespaceLoader",
        "class|PathFinder=_frozen_importlib_external:PathFinder",
        "class|SourceFileLoader=_frozen_importlib_external:SourceFileLoader",
        "class|SourcelessFileLoader=_frozen_importlib_external:SourcelessFileLoader",
        "class|WindowsRegistryFinder=_frozen_importlib_external:WindowsRegistryFinder",
        "function|all_suffixes",
        "of list|BYTECODE_SUFFIXES DEBUG_BYTECODE_SUFFIXES EXTENSION_SUFFIXES",
        "of list|OPTIMIZED_BYTECODE_SUFFIXES SOURCE_SUFFIXES"]),
    ("importlib.metadata",
      ["class|Deprecated DeprecatedList DeprecatedTuple Distribution DistributionFinder",
        "class|EntryPoint EntryPoints FastPath FileHash",
        "class|FreezableDefaultDict=importlib.metadata._collections:FreezableDefaultDict",
        "class|Lookup MetaPathFinder=importlib.abc:MetaPathFinder MetadataPathFinder",
        "class|PackageMetadata=importlib.metadata._meta:PackageMetadata",
        "class|PackageNotFoundError PackagePath Pair=importlib.metadata._collections:Pair",
        "class|PathDistribution Prepared Sectioned SelectableGroups",
        "class|SimplePath=importlib.metadata._meta:SimplePath starmap=itertools:starmap",
        "class|suppress=contextlib:suppress",
        "form|List Mapping Optional Union",
        "function|always_iterable distribution distributions entry_points files",
        "function|import_module metadata method_cache packages_distributions pass_none",
        "function|requires unique_everseen version",
        "hidden|Deprecated DeprecatedList DeprecatedTuple EntryPoint EntryPoints FastPath",
        "hidden|FileHash FreezableDefaultDict List Lookup Mapping MetaPathFinder",
        "hidden|MetadataPathFinder Optional PackagePath Pair PathDistribution Prepared",
        "hidden|Sectioned SelectableGroups SimplePath Union abc always_iterable",
        "hidden|collections csv email functools import_module itertools method_cache",
        "hidden|operator os pass_none pathlib posixpath re starmap suppress sys textwrap",
        "hidden|unique_everseen warnings zipfile",
        "module|abc collections csv email functools itertools operator os pathlib",
        "module|posixpath re sys textwrap warnings zipfile",
        "of list|__all__"]),
    ("importlib.readers",
      ["class|FileReader=importlib.resources.readers:FileReader",
        "class|MultiplexedPath=importlib.resources.readers:MultiplexedPath",
        "class|NamespaceReader=importlib.resources.readers:NamespaceReader",
        "class|ZipReader=importlib.resources.readers:ZipReader",
        "of list|__all__"]),
    ("importlib.resources",
      ["callable|Package",
        "class|Resource=builtins:str",
        "class|ResourceReader=importlib.resources.abc:ResourceReader",
        "function|as_file contents files is_resource open_binary open_text path",
        "function|read_binary read_text",
        "hidden|abc readers",
        "module|abc=importlib.resources.abc readers=importlib.resources.readers",
        "of list|__all__"]),
    ("importlib.resources.abc",
      ["callable|StrPath",
        "class|Any=typing:Any BinaryIO=typing:BinaryIO Protocol=typing:Protocol",
        "class|ResourceReader Text=builtins:str Traversable TraversableResources",
        "form|Iterable Iterator NoReturn Optional Union",
        "function|runtime_checkable",
        "hidden|Any BinaryIO Iterable Iterator NoReturn Optional Protocol StrPath Text",
        "hidden|Union abc io os runtime_checkable",
        "module|abc io os",
        "of list|__all__"]),
    ("importlib.resources.readers",
      ["class|FileReader MultiplexedPath NamespaceReader ZipReader",
        "function|remove_duplicates unique_everseen",
        "module|abc=importlib.resources.abc collections operator pathlib zipfile"]),
    ("importlib.resources.simple",
      ["class|BinaryIO=typing:BinaryIO ResourceContainer ResourceHandle SimpleReader",
        "class|Traversable=importlib.resources.abc:Traversable TraversableReader",
        "class|TraversableResources=importlib.resources.abc:TraversableResources",
        "form|List",
        "module|abc io itertools"]),
    ("importlib.simple",
      ["class|ResourceContainer=importlib.resources.simple:ResourceContainer",
        "class|ResourceHandle=importlib.resources.simple:ResourceHandle",
        "class|SimpleReader=importlib.resources.simple:SimpleReader",
        "class|TraversableReader=importlib.resources.simple:TraversableReader",
        "of list|__all__"]),
    ("importlib.util",
      ["class|LazyLoader Loader=importlib._abc:Loader",
        "function|cache_from_source contextmanager decode_source find_spec",
        "function|module_for_loader module_from_spec resolve_name set_loader set_package",
        "function|source_from_cache source_hash spec_from_file_location spec_from_loader",
        "module|functools sys threading types warnings",
        "of bytes|MAGIC_NUMBER"]),
    ("ipaddress",
      ["class|IPv4Address IPv4Interface IPv4Network IPv6Address IPv6Interface",
        "class|IPv6Network",
        "exception|AddressValueError NetmaskValueError",
        "function|collapse_addresses get_mixed_type_key ip_address ip_interface",
        "function|ip_network summarize_address_range v4_int_to_packed v6_int_to_packed",
        "module|functools",
        "of int|IPV4LENGTH IPV6LENGTH",
        "of str|__version__"]),
    ("json.decoder",
      ["builtin|c_scanstring scanstring",
        "class|JSONDecodeError JSONDecoder",
        "function|JSONArray JSONObject py_scanstring",
        "hidden|BACKSLASH FLAGS JSONArray JSONObject NaN NegInf PosInf STRINGCHUNK",
        "hidden|WHITESPACE WHITESPACE_STR c_scanstring py_scanstring re scanner",
        "hidden|scanstring",
        "module|re scanner=json.scanner",
        "of RegexFlag|FLAGS",
        "of dict|BACKSLASH",
        "of float|NaN NegInf PosInf",
        "of list|__all__",
        "of re.Pattern|STRINGCHUNK WHITESPACE",
        "of str|WHITESPACE_STR"]),
    ("json.encoder",
      ["builtin|c_encode_basestring c_encode_basestring_ascii encode_basestring",
        "builtin|encode_basestring_ascii",
        "class|JSONEncoder c_make_encoder=_json:Encoder",
        "function|py_encode_basestring py_encode_basestring_ascii",
        "module|re",
        "of dict|ESCAPE_DCT",
        "of float|INFINITY",
        "of re.Pattern|ESCAPE ESCAPE_ASCII HAS_UTF8"]),
    ("json.scanner",
      ["class|c_make_scanner=_json:Scanner make_scanner=_json:Scanner",
        "function|py_make_scanner",
        "hidden|NUMBER_RE c_make_scanner py_make_scanner re",
        "module|re",
        "of list|__all__",
        "of re.Pattern|NUMBER_RE"]),
    ("json.tool",
      ["class|Path=pathlib:Path",
        "function|main",
        "module|argparse json sys"]),
    ("linecache",
      ["function|checkcache clearcache getline getlines lazycache updatecache",
        "hidden|cache functools getlines os sys tokenize updatecache",
        "module|functools os sys tokenize",
        "of dict|cache",
        "of list|__all__"]),
    ("locale",
      ["builtin|bind_textdomain_codeset bindtextdomain dcgettext dgettext getencoding",
        "builtin|gettext nl_langinfo strcoll strxfrm textdomain",
        "exception|Error",
        "function|atof atoi currency delocalize format format_string getdefaultlocale",
        "function|getlocale getpreferredencoding localeconv localize normalize",
        "function|resetlocale setlocale str",
        "hidden|ABDAY_1 ABDAY_2 ABDAY_3 ABDAY_4 ABDAY_5 ABDAY_6 ABDAY_7 ABMON_1 ABMON_10",
        "hidden|ABMON_11 ABMON_12 ABMON_2 ABMON_3 ABMON_4 ABMON_5 ABMON_6 ABMON_7 ABMON_8",
        "hidden|ABMON_9 ALT_DIGITS AM_STR CODESET CRNCYSTR DAY_1 DAY_2 DAY_3 DAY_4 DAY_5",
        "hidden|DAY_6 DAY_7 D_FMT D_T_FMT ERA ERA_D_FMT ERA_D_T_FMT ERA_T_FMT MON_1",
        "hidden|MON_10 MON_11 MON_12 MON_2 MON_3 MON_4 MON_5 MON_6 MON_7 MON_8 MON_9",
        "hidden|NOEXPR PM_STR RADIXCHAR THOUSEP T_FMT T_FMT_AMPM YESEXPR",
        "hidden|bind_textdomain_codeset bindtextdomain dcgettext delocalize dgettext",
        "hidden|encodings functools gettext locale_alias locale_encoding_alias localize",
        "hidden|nl_langinfo re sys textdomain windows_locale",
        "module|encodings functools re sys",
        "of dict|locale_alias locale_encoding_alias windows_locale",
        "of int|ABDAY_1 ABDAY_2 ABDAY_3 ABDAY_4 ABDAY_5 ABDAY_6 ABDAY_7 ABMON_1 ABMON_10",
        "of int|ABMON_11 ABMON_12 ABMON_2 ABMON_3 ABMON_4 ABMON_5 ABMON_6 ABMON_7 ABMON_8",
        "of int|ABMON_9 ALT_DIGITS AM_STR CHAR_MAX CODESET CRNCYSTR DAY_1 DAY_2 DAY_3",
        "of int|DAY_4 DAY_5 DAY_6 DAY_7 D_FMT D_T_FMT ERA ERA_D_FMT ERA_D_T_FMT ERA_T_FMT",
        "of int|LC_ALL LC_COLLATE LC_CTYPE LC_MESSAGES LC_MONETARY LC_NUMERIC LC_TIME",
        "of int|MON_1 MON_10 MON_11 MON_12 MON_2 MON_3 MON_4 MON_5 MON_6 MON_7 MON_8",
        "of int|MON_9 NOEXPR PM_STR RADIXCHAR THOUSEP T_FMT T_FMT_AMPM YESEXPR",
        "of list|__all__"]),
    ("logging.config",
      ["class|BaseConfigurator ConvertingDict ConvertingList ConvertingMixin",
        "class|ConvertingTuple DictConfigurator",
        "class|StreamRequestHandler=socketserver:StreamRequestHandler",
        "class|ThreadingTCPServer=socketserver:ThreadingTCPServer",
        "class|dictConfigClass=logging.config:DictConfigurator",
        "function|dictConfig fileConfig listen stopListening valid_ident",
        "module|errno io logging os queue re struct threading traceback",
        "of int|DEFAULT_LOGGING_CONFIG_PORT RESET_ERROR",
        "of re.Pattern|IDENTIFIER"]),
    ("logging.handlers",
      ["class|BaseRotatingHandler BufferingHandler DatagramHandler HTTPHandler",
        "class|MemoryHandler NTEventLogHandler QueueHandler QueueListener",
        "class|RotatingFileHandler SMTPHandler SocketHandler SysLogHandler",
        "class|TimedRotatingFileHandler WatchedFileHandler",
        "module|copy io logging os pickle queue re socket struct threading time",
        "of int|DEFAULT_HTTP_LOGGING_PORT DEFAULT_SOAP_LOGGING_PORT",
        "of int|DEFAULT_TCP_LOGGING_PORT DEFAULT_UDP_LOGGING_PORT ST_DEV ST_INO ST_MTIME",
        "of int|SYSLOG_TCP_PORT SYSLOG_UDP_PORT"]),
    ("lzma",
      ["builtin|is_check_supported",
        "class|LZMACompressor=_lzma:LZMACompressor",
        "class|LZMADecompressor=_lzma:LZMADecompressor LZMAFile",
        "exception|LZMAError=_lzma:LZMAError",
        "function|compress decompress open",
        "hidden|builtins io os",
        "module|builtins io os",
        "of int|CHECK_CRC32 CHECK_CRC64 CHECK_ID_MAX CHECK_NONE CHECK_SHA256",
        "of int|CHECK_UNKNOWN FILTER_ARM FILTER_ARMTHUMB FILTER_DELTA FILTER_IA64",
        "of int|FILTER_LZMA1 FILTER_LZMA2 FILTER_POWERPC FILTER_SPARC FILTER_X86",
        "of int|FORMAT_ALONE FORMAT_AUTO FORMAT_RAW FORMAT_XZ MF_BT2 MF_BT3 MF_BT4 MF_HC3",
        "of int|MF_HC4 MODE_FAST MODE_NORMAL PRESET_DEFAULT PRESET_EXTREME",
        "of list|__all__"]),
    ("mailbox",
      ["class|Babyl BabylMessage GenericAlias=types:GenericAlias MH MHMessage MMDF",
        "class|MMDFMessage Mailbox Maildir MaildirMessage Message mbox mboxMessage",
        "exception|Error ExternalClashError FormatError NoSuchMailboxError NotEmptyError",
        "hidden|GenericAlias calendar contextlib copy email errno fcntl io linesep os",
        "hidden|socket time warnings",
        "module|calendar contextlib copy email errno fcntl io os socket time warnings",
        "of bytes|linesep",
        "of list|__all__"]),
    ("mailcap",
      ["exception|UnsafeMailcapInput",
        "function|findmatch findparam getcaps lineno_sort_key listmailcapfiles lookup",
        "function|parsefield parseline readmailcapfile show subst test",
        "hidden|UnsafeMailcapInput findparam lineno_sort_key listmailcapfiles lookup os",
        "hidden|parsefield parseline re readmailcapfile show subst test warnings",
        "module|os re warnings",
        "of list|__all__"]),
    ("marshal",
      ["builtin|dump dumps load loads",
        "of int|version"]),
    ("mimetypes",
      ["class|MimeTypes",
        "function|add_type guess_all_extensions guess_extension guess_type init",
        "function|read_mime_types",
        "hidden|os posixpath sys urllib",
        "module|os posixpath sys urllib",
        "of bool|inited",
        "of dict|common_types encodings_map suffix_map types_map",
        "of list|__all__ knownfiles"]),
    ("mmap",
      ["class|mmap",
        "exception|error=builtins:OSError",
        "of int|ACCESS_COPY ACCESS_DEFAULT ACCESS_READ ACCESS_WRITE ALLOCATIONGRANULARITY",
        "of int|MADV_DODUMP MADV_DOFORK MADV_DONTDUMP MADV_DONTFORK MADV_DONTNEED",
        "of int|MADV_HUGEPAGE MADV_HWPOISON MADV_MERGEABLE MADV_NOHUGEPAGE MADV_NORMAL",
        "of int|MADV_RANDOM MADV_REMOVE MADV_SEQUENTIAL MADV_UNMERGEABLE MADV_WILLNEED",
        "of int|MAP_ANON MAP_ANONYMOUS MAP_DENYWRITE MAP_EXECUTABLE MAP_POPULATE",
        "of int|MAP_PRIVATE MAP_SHARED MAP_STACK PAGESIZE PROT_EXEC PROT_READ PROT_WRITE"]),
    ("modulefinder",
      ["class|Module ModuleFinder",
        "function|AddPackagePath ReplacePackage test",
        "module|dis importlib io marshal os sys",
        "of dict|packagePathMap replacePackageMap"]),
    ("multiprocessing",
      ["callable|Array Barrier BoundedSemaphore Condition Event JoinableQueue Lock",
        "callable|Manager Pipe Pool Queue RLock RawArray RawValue Semaphore SimpleQueue",
        "callable|Value allow_connection_pickling cpu_count freeze_support",
        "callable|get_all_start_methods get_context get_logger get_start_method",
        "callable|log_to_stderr set_executable set_forkserver_preload set_start_method",
        "class|Process=multiprocessing.context:Process",
        "exception|AuthenticationError=multiprocessing.context:AuthenticationError",
        "exception|BufferTooShort=multiprocessing.context:BufferTooShort",
        "exception|ProcessError=multiprocessing.context:ProcessError",
        "exception|TimeoutError=multiprocessing.context:TimeoutError",
        "function|active_children current_process parent_process",
        "hidden|SUBDEBUG SUBWARNING connection context process queues reduction sys util",
        "module|connection=multiprocessing.connection context=multiprocessing.context",
        "module|process=multiprocessing.process queues=multiprocessing.queues",
        "module|reducer=multiprocessing.reduction reduction=multiprocessing.reduction sys",
        "module|util=multiprocessing.util",
        "of int|SUBDEBUG SUBWARNING",
        "of list|__all__"]),
    ("multiprocessing.connection",
      ["class|Connection ConnectionWrapper Listener SocketListener XmlListener",
        "exception|AuthenticationError=multiprocessing.context:AuthenticationError",
        "exception|BufferTooShort=multiprocessing.context:BufferTooShort",
        "function|Client Pipe SocketClient XmlClient address_type answer_challenge",
        "function|arbitrary_address deliver_challenge rebuild_connection",
        "function|reduce_connection wait",
        "hidden|AuthenticationError BUFSIZE BufferTooShort CHALLENGE CONNECTION_TIMEOUT",
        "hidden|Connection ConnectionWrapper FAILURE MESSAGE_LENGTH SocketClient",
        "hidden|SocketListener WELCOME XmlClient XmlListener address_type",
        "hidden|answer_challenge arbitrary_address default_family deliver_challenge errno",
        "hidden|families io itertools os rebuild_connection reduce_connection reduction",
        "hidden|selectors socket struct sys tempfile time util",
        "module|errno io itertools os reduction=multiprocessing.reduction selectors",
        "module|socket struct sys tempfile time util=multiprocessing.util",
        "of bytes|CHALLENGE FAILURE WELCOME",
        "of float|CONNECTION_TIMEOUT",
        "of int|BUFSIZE MESSAGE_LENGTH",
        "of list|__all__ families",
        "of str|default_family"]),
    ("multiprocessing.context",
      ["class|BaseContext DefaultContext ForkContext ForkProcess ForkServerContext",
        "class|ForkServerProcess Process SpawnContext SpawnProcess",
        "exception|AuthenticationError BufferTooShort ProcessError TimeoutError",
        "function|assert_spawning get_spawning_popen set_spawning_popen",
        "hidden|AuthenticationError BaseContext BufferTooShort DefaultContext ForkContext",
        "hidden|ForkProcess ForkServerContext ForkServerProcess Process ProcessError",
        "hidden|SpawnContext SpawnProcess TimeoutError assert_spawning get_spawning_popen",
        "hidden|os process reduction set_spawning_popen sys threading",
        "module|os process=multiprocessing.process reduction=multiprocessing.reduction",
        "module|sys threading",
        "of tuple|__all__"]),
    ("multiprocessing.dummy",
      ["builtin|Lock",
        "class|Barrier=threading:Barrier BoundedSemaphore=threading:BoundedSemaphore",
        "class|Condition=threading:Condition DummyProcess Event=threading:Event",
        "class|JoinableQueue=queue:Queue Namespace",
        "class|Process=multiprocessing.dummy:DummyProcess Queue=queue:Queue",
        "class|Semaphore=threading:Semaphore Value dict=builtins:dict list=builtins:list",
        "function|Array Manager Pipe Pool RLock active_children current_process",
        "function|freeze_support shutdown",
        "hidden|Array DummyProcess Namespace Value array connection dict list shutdown",
        "hidden|sys threading weakref",
        "module|array connection=multiprocessing.dummy.connection sys threading weakref",
        "of list|__all__"]),
    ("multiprocessing.dummy.connection",
      ["class|Connection Listener Queue=queue:Queue",
        "function|Client Pipe",
        "hidden|Connection Queue families",
        "of list|__all__ families"]),
    ("multiprocessing.forkserver",
      ["callable|connect_to_new_process ensure_running get_inherited_fds",
        "callable|set_forkserver_preload",
        "class|ForkServer",
        "function|main read_signed write_signed",
        "hidden|ForkServer MAXFDS_TO_SEND SIGNED_STRUCT connection errno main os process",
        "hidden|read_signed reduction resource_tracker selectors signal socket spawn",
        "hidden|struct sys threading util warnings write_signed",
        "module|connection=multiprocessing.connection errno os",
        "module|process=multiprocessing.process reduction=multiprocessing.reduction",
        "module|resource_tracker=multiprocessing.resource_tracker selectors signal socket",
        "module|spawn=multiprocessing.spawn struct sys threading",
        "module|util=multiprocessing.util warnings",
        "of _struct.Struct|SIGNED_STRUCT",
        "of int|MAXFDS_TO_SEND",
        "of list|__all__"]),
    ("multiprocessing.heap",
      ["class|Arena BufferWrapper Heap defaultdict=collections:defaultdict",
        "function|assert_spawning rebuild_arena reduce_arena",
        "hidden|Arena Heap assert_spawning bisect defaultdict mmap os rebuild_arena",
        "hidden|reduce_arena reduction sys tempfile threading util",
        "module|bisect mmap os reduction=multiprocessing.reduction sys tempfile threading",
        "module|util=multiprocessing.util",
        "of list|__all__"]),
    ("multiprocessing.managers",
      ["builtin|getpid",
        "callable|get_context",
        "class|AcquirerProxy ArrayProxy BarrierProxy BaseListProxy BaseManager",
        "class|BasePoolProxy=multiprocessing.managers:PoolProxy BaseProxy ConditionProxy",
        "class|DictProxy EventProxy IteratorProxy ListProxy Namespace NamespaceProxy",
        "class|PoolProxy ProcessLocalSet RemoteError Server SharedMemoryManager",
        "class|SharedMemoryServer State SyncManager Token Value ValueProxy",
        "exception|ProcessError=multiprocessing.context:ProcessError",
        "function|Array AutoProxy MakeProxyType RebuildProxy all_methods convert_to_error",
        "function|dispatch format_exc get_spawning_popen public_methods rebuild_as_list",
        "function|reduce_array",
        "hidden|AcquirerProxy Array ArrayProxy AutoProxy BarrierProxy BaseListProxy",
        "hidden|BasePoolProxy ConditionProxy DictProxy EventProxy HAS_SHMEM IteratorProxy",
        "hidden|ListProxy MakeProxyType Namespace NamespaceProxy PoolProxy ProcessError",
        "hidden|ProcessLocalSet RebuildProxy RemoteError Server SharedMemoryServer State",
        "hidden|Value ValueProxy all_methods array connection convert_to_error dispatch",
        "hidden|format_exc get_context get_spawning_popen getpid listener_client os pool",
        "hidden|process public_methods queue rebuild_as_list reduce_array reduction",
        "hidden|shared_memory signal sys threading time types util",
        "module|array connection=multiprocessing.connection os pool=multiprocessing.pool",
        "module|process=multiprocessing.process queue reduction=multiprocessing.reduction",
        "module|shared_memory=multiprocessing.shared_memory signal sys threading time",
        "module|types util=multiprocessing.util",
        "of bool|HAS_SHMEM",
        "of dict|listener_client",
        "of list|__all__"]),
    ("multiprocessing.pool",
      ["callable|get_context",
        "class|ApplyResult AsyncResult=multiprocessing.pool:ApplyResult",
        "class|ExceptionWithTraceback IMapIterator IMapUnorderedIterator MapResult",
        "class|MaybeEncodingError Pool ThreadPool",
        "exception|RemoteTraceback TimeoutError=multiprocessing.context:TimeoutError",
        "function|mapstar rebuild_exc starmapstar wait worker",
        "hidden|ApplyResult AsyncResult CLOSE ExceptionWithTraceback IMapIterator",
        "hidden|IMapUnorderedIterator INIT MapResult MaybeEncodingError RUN",
        "hidden|RemoteTraceback TERMINATE TimeoutError collections get_context itertools",
        "hidden|job_counter mapstar os queue rebuild_exc starmapstar threading time",
        "hidden|traceback types util wait warnings worker",
        "module|collections itertools os queue threading time traceback types",
        "module|util=multiprocessing.util warnings",
        "of itertools.count|job_counter",
        "of list|__all__",
        "of str|CLOSE INIT RUN TERMINATE"]),
    ("multiprocessing.popen_fork",
      ["class|Popen",
        "hidden|os signal util",
        "module|os signal util=multiprocessing.util",
        "of list|__all__"]),
    ("multiprocessing.popen_forkserver",
      ["class|Popen",
        "function|set_spawning_popen",
        "hidden|forkserver io os popen_fork reduction set_spawning_popen spawn util",
        "module|forkserver=multiprocessing.forkserver io os",
        "module|popen_fork=multiprocessing.popen_fork reduction=multiprocessing.reduction",
        "module|spawn=multiprocessing.spawn util=multiprocessing.util",
        "of list|__all__"]),
    ("multiprocessing.popen_spawn_posix",
      ["class|Popen",
        "function|set_spawning_popen",
        "hidden|io os popen_fork reduction set_spawning_popen spawn util",
        "module|io os popen_fork=multiprocessing.popen_fork",
        "module|reduction=multiprocessing.reduction spawn=multiprocessing.spawn",
        "module|util=multiprocessing.util",
        "of list|__all__"]),
    ("multiprocessing.process",
      ["class|AuthenticationString BaseProcess WeakSet=_weakrefset:WeakSet",
        "function|active_children current_process parent_process",
        "hidden|AuthenticationString ORIGINAL_DIR WeakSet itertools os signal sys",
        "hidden|threading",
        "module|itertools os signal sys threading",
        "of list|__all__",
        "of str|ORIGINAL_DIR"]),
    ("multiprocessing.queues",
      ["class|Finalize=multiprocessing.util:Finalize JoinableQueue Queue SimpleQueue",
        "exception|Empty=_queue:Empty Full=queue:Full",
        "function|debug info is_exiting register_after_fork",
        "hidden|Empty Finalize Full collections connection context debug errno info",
        "hidden|is_exiting os register_after_fork sys threading time types weakref",
        "module|collections connection=multiprocessing.connection",
        "module|context=multiprocessing.context errno os sys threading time types weakref",
        "of list|__all__"]),
    ("multiprocessing.reduction",
      ["callable|register",
        "class|ABCMeta=abc:ABCMeta AbstractReducer ForkingPickler",
        "function|DupFd dump recv_handle recvfds send_handle sendfds",
        "hidden|ABCMeta ACKNOWLEDGE AbstractReducer HAVE_SEND_HANDLE array context",
        "hidden|copyreg functools io os pickle socket sys",
        "module|array context=multiprocessing.context copyreg functools io os pickle",
        "module|socket sys",
        "of bool|ACKNOWLEDGE HAVE_SEND_HANDLE",
        "of list|__all__"]),
    ("multiprocessing.resource_sharer",
      ["callable|stop",
        "class|DupFd",
        "hidden|os process reduction signal socket sys threading util",
        "module|os process=multiprocessing.process reduction=multiprocessing.reduction",
        "module|signal socket sys threading util=multiprocessing.util",
        "of list|__all__"]),
    ("multiprocessing.resource_tracker",
      ["callable|ensure_running getfd register unregister",
        "class|ResourceTracker",
        "exception|ReentrantCallError",
        "function|main",
        "hidden|ReentrantCallError ResourceTracker getfd main os signal spawn sys",
        "hidden|threading util warnings",
        "module|os signal spawn=multiprocessing.spawn sys threading",
        "module|util=multiprocessing.util warnings",
        "of list|__all__"]),
    ("multiprocessing.shared_memory",
      ["class|ShareableList SharedMemory partial=functools:partial",
        "hidden|errno mmap os partial resource_tracker secrets struct types",
        "module|errno mmap os resource_tracker=multiprocessing.resource_tracker secrets",
        "module|struct types",
        "of list|__all__"]),
    ("multiprocessing.sharedctypes",
      ["callable|get_context",
        "class|Synchronized SynchronizedArray SynchronizedBase SynchronizedString",
        "function|Array RawArray RawValue Value assert_spawning copy make_property",
        "function|rebuild_ctype reduce_ctype synchronized",
        "hidden|Synchronized SynchronizedArray SynchronizedBase SynchronizedString",
        "hidden|assert_spawning class_cache ctypes get_context heap make_property",
        "hidden|prop_cache rebuild_ctype reduce_ctype reduction template typecode_to_type",
        "hidden|weakref",
        "module|ctypes heap=multiprocessing.heap reduction=multiprocessing.reduction",
        "module|weakref",
        "of WeakKeyDictionary|class_cache",
        "of dict|prop_cache typecode_to_type",
        "of list|__all__",
        "of str|template"]),
    ("multiprocessing.spawn",
      ["callable|get_start_method set_start_method",
        "function|freeze_support get_command_line get_executable get_preparation_data",
        "function|import_main_path is_forking prepare set_executable spawn_main",
        "hidden|WINEXE WINSERVICE get_start_method is_forking old_main_modules os prepare",
        "hidden|process reduction runpy set_start_method spawn_main sys types util",
        "module|os process=multiprocessing.process reduction=multiprocessing.reduction",
        "module|runpy sys types util=multiprocessing.util",
        "of bool|WINEXE WINSERVICE",
        "of list|__all__ old_main_modules",
        "shown|_main"]),
    ("multiprocessing.synchronize",
      ["builtin|sem_unlink",
        "class|Barrier BoundedSemaphore Condition Event Lock RLock SemLock Semaphore",
        "hidden|Barrier RECURSIVE_MUTEX SEMAPHORE SEM_VALUE_MAX SemLock context process",
        "hidden|sem_unlink sys tempfile threading time util",
        "module|context=multiprocessing.context process=multiprocessing.process sys",
        "module|tempfile threading time util=multiprocessing.util",
        "of int|RECURSIVE_MUTEX SEMAPHORE SEM_VALUE_MAX",
        "of list|__all__"]),
    ("multiprocessing.util",
      ["class|Finalize ForkAwareLocal ForkAwareThreadLock",
        "function|close_all_fds_except close_fds debug get_logger get_temp_dir info",
        "function|is_abstract_socket_namespace is_exiting log_to_stderr",
        "function|register_after_fork spawnv_passfds sub_debug sub_warning",
        "hidden|DEBUG DEFAULT_LOGGING_FORMAT INFO LOGGER_NAME MAXFD NOTSET",
        "hidden|abstract_sockets_supported atexit close_fds is_abstract_socket_namespace",
        "hidden|itertools os process spawnv_passfds sys threading weakref",
        "module|atexit itertools os process=multiprocessing.process sys threading weakref",
        "of bool|abstract_sockets_supported",
        "of int|DEBUG INFO MAXFD NOTSET SUBDEBUG SUBWARNING",
        "of list|__all__",
        "of str|DEFAULT_LOGGING_FORMAT LOGGER_NAME"]) ]

def memberDataNToS : List (String × List String) :=
  [ ("netrc",
      ["class|NetrcParseError netrc",
        "hidden|os shlex stat",
        "module|os shlex stat",
        "of list|__all__"]),
    ("nntplib",
      ["class|ArticleInfo GroupInfo NNTP NNTP_SSL",
        "exception|NNTPDataError NNTPError NNTPPermanentError NNTPProtocolError",
        "exception|NNTPReplyError NNTPTemporaryError",
        "function|decode_header",
        "hidden|ArticleInfo GroupInfo NNTP_PORT NNTP_SSL_PORT collections datetime re",
        "hidden|socket ssl sys warnings",
        "module|collections datetime re socket ssl sys warnings",
        "of int|NNTP_PORT NNTP_SSL_PORT",
        "of list|__all__"]),
    ("ntpath",
      ["function|abspath basename commonpath commonprefix dirname exists expanduser",
        "function|expandvars getatime getctime getmtime getsize isabs isdir isfile islink",
        "function|ismount join lexists normcase normpath realpath relpath samefile",
        "function|sameopenfile samestat split splitdrive splitext",
        "hidden|genericpath os stat sys",
        "module|genericpath os stat sys",
        "of bool|supports_unicode_filenames",
        "of list|__all__",
        "of str|altsep curdir defpath devnull extsep pardir pathsep sep"]),
    ("nturl2path",
      ["function|pathname2url url2pathname"]),
    ("opcode",
      ["builtin|stack_effect",
        "of dict|opmap",
        "of int|EXTENDED_ARG HAVE_ARGUMENT",
        "of list|__all__ hascompare hasconst hasfree hasjabs hasjrel haslocal hasname",
        "of list|hasnargs opname",
        "of tuple|cmp_op"]),
    ("optparse",
      ["class|AmbiguousOptionError BadOptionError HelpFormatter IndentedHelpFormatter",
        "class|Option OptionConflictError OptionContainer OptionError OptionGroup",
        "class|OptionParser TitledHelpFormatter Values make_option=optparse:Option",
        "exception|OptParseError OptionValueError",
        "function|check_builtin check_choice gettext ngettext",
        "hidden|AmbiguousOptionError NO_DEFAULT check_builtin gettext ngettext os sys",
        "hidden|textwrap",
        "module|os sys textwrap",
        "of list|__all__",
        "of str|SUPPRESS_HELP SUPPRESS_USAGE __copyright__ __version__",
        "of tuple|NO_DEFAULT"]),
    ("os.path",
      ["function|abspath basename commonpath commonprefix dirname exists expanduser",
        "function|expandvars getatime getctime getmtime getsize isabs isdir isfile islink",
        "function|ismount join lexists normcase normpath realpath relpath samefile",
        "function|sameopenfile samestat split splitdrive splitext",
        "hidden|genericpath os stat sys",
        "module|genericpath os stat sys",
        "of NoneType|altsep",
        "of bool|supports_unicode_filenames",
        "of list|__all__",
        "of str|curdir defpath devnull extsep pardir pathsep sep"]),
    ("pdb",
      ["class|Pdb",
        "exception|Restart",
        "form|Union",
        "function|find_function help lasti2lineno main pm post_mortem run runcall runctx",
        "function|runeval set_trace test",
        "hidden|Restart TESTCMD Union bdb cmd code dis find_function functools glob",
        "hidden|inspect io lasti2lineno line_prefix linecache main os pprint re signal",
        "hidden|sys test tokenize traceback",
        "module|bdb cmd code dis functools glob inspect io linecache os pprint re signal",
        "module|sys tokenize traceback",
        "of list|__all__",
        "of str|TESTCMD line_prefix"]),
    ("pickle",
      ["builtin|dump dumps load loads pack unpack",
        "class|FunctionType=builtins:function PickleBuffer Pickler=_pickle:Pickler",
        "class|Unpickler=_pickle:Unpickler islice=itertools:islice",
        "class|partial=functools:partial",
        "exception|PickleError=_pickle:PickleError PicklingError=_pickle:PicklingError",
        "exception|UnpicklingError=_pickle:UnpicklingError",
        "function|decode_long encode_long whichmodule",
        "hidden|FunctionType PyStringMap bytes_types codecs compatible_formats",
        "hidden|decode_long dispatch_table encode_long format_version io islice maxsize",
        "hidden|pack partial re sys unpack whichmodule",
        "module|codecs io re sys",
        "of NoneType|PyStringMap",
        "of bytes|ADDITEMS APPEND APPENDS BINBYTES BINBYTES8 BINFLOAT BINGET BININT",
        "of bytes|BININT1 BININT2 BINPERSID BINPUT BINSTRING BINUNICODE BINUNICODE8 BUILD",
        "of bytes|BYTEARRAY8 DICT DUP EMPTY_DICT EMPTY_LIST EMPTY_SET EMPTY_TUPLE EXT1",
        "of bytes|EXT2 EXT4 FALSE FLOAT FRAME FROZENSET GET GLOBAL INST INT LIST LONG",
        "of bytes|LONG1 LONG4 LONG_BINGET LONG_BINPUT MARK MEMOIZE NEWFALSE NEWOBJ",
        "of bytes|NEWOBJ_EX NEWTRUE NEXT_BUFFER NONE OBJ PERSID POP POP_MARK PROTO PUT",
        "of bytes|READONLY_BUFFER REDUCE SETITEM SETITEMS SHORT_BINBYTES SHORT_BINSTRING",
        "of bytes|SHORT_BINUNICODE STACK_GLOBAL STOP STRING TRUE TUPLE TUPLE1 TUPLE2",
        "of bytes|TUPLE3 UNICODE",
        "of dict|dispatch_table",
        "of int|DEFAULT_PROTOCOL HIGHEST_PROTOCOL maxsize",
        "of list|__all__ compatible_formats",
        "of str|format_version",
        "of tuple|bytes_types"]),
    ("pickletools",
      ["class|ArgumentDescriptor OpcodeInfo StackObject",
        "function|decode_long dis genops optimize read_bytearray8 read_bytes1 read_bytes4",
        "function|read_bytes8 read_decimalnl_long read_decimalnl_short read_float8",
        "function|read_floatnl read_int4 read_long1 read_long4 read_string1 read_string4",
        "function|read_stringnl read_stringnl_noescape read_stringnl_noescape_pair",
        "function|read_uint1 read_uint2 read_uint4 read_uint8 read_unicodestring1",
        "function|read_unicodestring4 read_unicodestring8 read_unicodestringnl",
        "hidden|ArgumentDescriptor OpcodeInfo StackObject TAKEN_FROM_ARGUMENT1",
        "hidden|TAKEN_FROM_ARGUMENT4 TAKEN_FROM_ARGUMENT4U TAKEN_FROM_ARGUMENT8U",
        "hidden|UP_TO_NEWLINE anyobject bytearray8 bytes1 bytes4 bytes8 bytes_types",
        "hidden|code2op codecs decimalnl_long decimalnl_short decode_long float8 floatnl",
        "hidden|int4 io long1 long4 markobject opcodes pickle pybool pybuffer pybytearray",
        "hidden|pybytes pybytes_or_str pydict pyfloat pyfrozenset pyint pyinteger_or_bool",
        "hidden|pylist pylong pynone pyset pystring pytuple pyunicode re read_bytearray8",
        "hidden|read_bytes1 read_bytes4 read_bytes8 read_decimalnl_long",
        "hidden|read_decimalnl_short read_float8 read_floatnl read_int4 read_long1",
        "hidden|read_long4 read_string1 read_string4 read_stringnl read_stringnl_noescape",
        "hidden|read_stringnl_noescape_pair read_uint1 read_uint2 read_uint4 read_uint8",
        "hidden|read_unicodestring1 read_unicodestring4 read_unicodestring8",
        "hidden|read_unicodestringnl stackslice string1 string4 stringnl",
        "hidden|stringnl_noescape stringnl_noescape_pair sys uint1 uint2 uint4 uint8",
        "hidden|unicodestring1 unicodestring4 unicodestring8 unicodestringnl",
        "module|codecs io pickle re sys",
        "of ArgumentDescriptor|bytearray8 bytes1 bytes4 bytes8 decimalnl_long",
        "of ArgumentDescriptor|decimalnl_short float8 floatnl int4 long1 long4 string1",
        "of ArgumentDescriptor|string4 stringnl stringnl_noescape stringnl_noescape_pair",
        "of ArgumentDescriptor|uint1 uint2 uint4 uint8 unicodestring1 unicodestring4",
        "of ArgumentDescriptor|unicodestring8 unicodestringnl",
        "of StackObject|anyobject markobject pybool pybuffer pybytearray pybytes",
        "of StackObject|pybytes_or_str pydict pyfloat pyfrozenset pyint pyinteger_or_bool",
        "of StackObject|pylist pylong pynone pyset pystring pytuple pyunicode stackslice",
        "of dict|__test__ code2op",
        "of int|TAKEN_FROM_ARGUMENT1 TAKEN_FROM_ARGUMENT4 TAKEN_FROM_ARGUMENT4U",
        "of int|TAKEN_FROM_ARGUMENT8U UP_TO_NEWLINE",
        "of list|__all__ opcodes",
        "of tuple|bytes_types"]),
    ("pipes",
      ["class|Template",
        "function|makepipeline quote",
        "hidden|FILEIN_FILEOUT FILEIN_STDOUT SINK SOURCE STDIN_FILEOUT STDIN_STDOUT",
        "hidden|makepipeline os quote re stepkinds tempfile warnings",
        "module|os re tempfile warnings",
        "of list|__all__ stepkinds",
        "of str|FILEIN_FILEOUT FILEIN_STDOUT SINK SOURCE STDIN_FILEOUT STDIN_STDOUT"]),
    ("pkgutil",
      ["class|ImpImporter ImpLoader ModuleInfo ModuleType=builtins:module",
        "class|zipimporter=zipimport:zipimporter",
        "function|extend_path find_loader get_data get_importer get_loader",
        "function|iter_importer_modules iter_importers iter_modules",
        "function|iter_zipimport_modules namedtuple read_code resolve_name simplegeneric",
        "function|walk_packages",
        "hidden|ModuleType importlib iter_importer_modules iter_zipimport_modules",
        "hidden|namedtuple os resolve_name simplegeneric sys warnings zipimport",
        "hidden|zipimporter",
        "module|importlib os sys warnings zipimport",
        "of list|__all__"]),
    ("platform",
      ["class|uname_result",
        "function|architecture freedesktop_os_release java_ver libc_ver mac_ver machine",
        "function|node platform processor python_branch python_build python_compiler",
        "function|python_implementation python_revision python_version",
        "function|python_version_tuple release system system_alias uname version",
        "function|win32_edition win32_is_iot win32_ver",
        "module|collections functools itertools os re sys",
        "of str|__copyright__ __version__"]),
    ("plistlib",
      ["builtin|ParserCreate",
        "class|BytesIO=_io:BytesIO PlistFormat UID",
        "exception|InvalidFileException",
        "function|dump dumps load loads",
        "hidden|BytesIO PLISTHEADER ParserCreate PlistFormat binascii codecs datetime",
        "hidden|enum itertools os re struct",
        "module|binascii codecs datetime enum itertools os re struct",
        "of PlistFormat|FMT_BINARY FMT_XML",
        "of bytes|PLISTHEADER",
        "of list|__all__"]),
    ("poplib",
      ["class|POP3 POP3_SSL",
        "exception|error_proto",
        "hidden|CR CRLF HAVE_SSL LF POP3_PORT POP3_SSL_PORT errno re socket ssl sys",
        "module|errno re socket ssl sys",
        "of bool|HAVE_SSL",
        "of bytes|CR CRLF LF",
        "of int|POP3_PORT POP3_SSL_PORT",
        "of list|__all__"]),
    ("posix",
      ["builtin|WCOREDUMP WEXITSTATUS WIFCONTINUED WIFEXITED WIFSIGNALED WIFSTOPPED",
        "builtin|WSTOPSIG WTERMSIG abort access chdir chmod chown chroot close closerange",
        "builtin|confstr cpu_count ctermid device_encoding dup dup2 eventfd eventfd_read",
        "builtin|eventfd_write execv execve fchdir fchmod fchown fdatasync fork forkpty",
        "builtin|fpathconf fspath fstat fstatvfs fsync ftruncate get_blocking",
        "builtin|get_inheritable get_terminal_size getcwd getcwdb getegid geteuid getgid",
        "builtin|getgrouplist getgroups getloadavg getlogin getpgid getpgrp getpid",
        "builtin|getppid getpriority getresgid getresuid getsid getuid getxattr",
        "builtin|initgroups isatty kill killpg lchown link listdir listxattr lockf",
        "builtin|login_tty lseek lstat major makedev minor mkdir mkfifo mknod nice open",
        "builtin|openpty pathconf pipe pipe2 posix_fadvise posix_fallocate posix_spawn",
        "builtin|posix_spawnp pread preadv putenv pwrite pwritev read readlink readv",
        "builtin|register_at_fork remove removexattr rename replace rmdir scandir",
        "builtin|sched_get_priority_max sched_get_priority_min sched_getaffinity",
        "builtin|sched_getparam sched_getscheduler sched_rr_get_interval",
        "builtin|sched_setaffinity sched_setparam sched_setscheduler sched_yield sendfile",
        "builtin|set_blocking set_inheritable setegid seteuid setgid setgroups setpgid",
        "builtin|setpgrp setpriority setregid setresgid setresuid setreuid setsid setuid",
        "builtin|setxattr splice stat statvfs strerror symlink sync sysconf system",
        "builtin|tcgetpgrp tcsetpgrp times truncate ttyname umask uname unlink unsetenv",
        "builtin|urandom utime wait wait3 wait4 waitid waitpid waitstatus_to_exitcode",
        "builtin|write writev",
        "class|DirEntry sched_param stat_result=os:stat_result",
        "class|statvfs_result=os:statvfs_result terminal_size=os:terminal_size",
        "class|times_result uname_result waitid_result",
        "exception|error=builtins:OSError",
        "of dict|confstr_names environ pathconf_names sysconf_names",
        "of int|CLD_CONTINUED CLD_DUMPED CLD_EXITED CLD_KILLED CLD_STOPPED CLD_TRAPPED",
        "of int|EFD_CLOEXEC EFD_NONBLOCK EFD_SEMAPHORE EX_CANTCREAT EX_CONFIG EX_DATAERR",
        "of int|EX_IOERR EX_NOHOST EX_NOINPUT EX_NOPERM EX_NOUSER EX_OK EX_OSERR",
        "of int|EX_OSFILE EX_PROTOCOL EX_SOFTWARE EX_TEMPFAIL EX_UNAVAILABLE EX_USAGE",
        "of int|F_LOCK F_OK F_TEST F_TLOCK F_ULOCK NGROUPS_MAX O_ACCMODE O_APPEND O_ASYNC",
        "of int|O_CLOEXEC O_CREAT O_DIRECT O_DIRECTORY O_DSYNC O_EXCL O_FSYNC O_LARGEFILE",
        "of int|O_NDELAY O_NOATIME O_NOCTTY O_NOFOLLOW O_NONBLOCK O_PATH O_RDONLY O_RDWR",
        "of int|O_RSYNC O_SYNC O_TMPFILE O_TRUNC O_WRONLY POSIX_FADV_DONTNEED",
        "of int|POSIX_FADV_NOREUSE POSIX_FADV_NORMAL POSIX_FADV_RANDOM",
        "of int|POSIX_FADV_SEQUENTIAL POSIX_FADV_WILLNEED POSIX_SPAWN_CLOSE",
        "of int|POSIX_SPAWN_DUP2 POSIX_SPAWN_OPEN PRIO_PGRP PRIO_PROCESS PRIO_USER P_ALL",
        "of int|P_PGID P_PID RTLD_DEEPBIND RTLD_GLOBAL RTLD_LAZY RTLD_LOCAL RTLD_NODELETE",
        "of int|RTLD_NOLOAD RTLD_NOW R_OK SCHED_BATCH SCHED_FIFO SCHED_IDLE SCHED_OTHER",
        "of int|SCHED_RESET_ON_FORK SCHED_RR SEEK_DATA SEEK_HOLE SPLICE_F_MORE",
        "of int|SPLICE_F_MOVE SPLICE_F_NONBLOCK ST_APPEND ST_MANDLOCK ST_NOATIME ST_NODEV",
        "of int|ST_NODIRATIME ST_NOEXEC ST_NOSUID ST_RDONLY ST_RELATIME ST_SYNCHRONOUS",
        "of int|ST_WRITE TMP_MAX WCONTINUED WEXITED WNOHANG WNOWAIT WSTOPPED WUNTRACED",
        "of int|W_OK XATTR_CREATE XATTR_REPLACE XATTR_SIZE_MAX X_OK"]),
    ("posixpath",
      ["function|abspath basename commonpath commonprefix dirname exists expanduser",
        "function|expandvars getatime getctime getmtime getsize isabs isdir isfile islink",
        "function|ismount join lexists normcase normpath realpath relpath samefile",
        "function|sameopenfile samestat split splitdrive splitext",
        "hidden|genericpath os stat sys",
        "module|genericpath os stat sys",
        "of NoneType|altsep",
        "of bool|supports_unicode_filenames",
        "of list|__all__",
        "of str|curdir defpath devnull extsep pardir pathsep sep"]),
    ("pprint",
      ["class|PrettyPrinter",
        "function|isreadable isrecursive pformat pp pprint saferepr",
        "hidden|re",
        "module|re",
        "of list|__all__"]),
    ("profile",
      ["class|Profile",
        "function|main run runctx",
        "hidden|io main marshal sys time",
        "module|io marshal sys time",
        "of list|__all__"]),
    ("pstats",
      ["builtin|cmp_to_key",
        "class|FunctionProfile SortKey Stats StatsProfile StrEnum=enum:StrEnum TupleComp",
        "form|Dict",
        "function|add_callers add_func_stats count_calls dataclass f8",
        "function|func_get_function_name func_std_string func_strip_path",
        "hidden|Dict StrEnum TupleComp add_callers add_func_stats cmp_to_key count_calls",
        "hidden|dataclass f8 func_get_function_name func_std_string func_strip_path",
        "hidden|marshal os re sys time",
        "module|marshal os re sys time",
        "of list|__all__"]),
    ("pty",
      ["builtin|close select tcgetattr tcsetattr waitpid",
        "function|fork master_open openpty setraw slave_open spawn",
        "hidden|CHILD STDERR_FILENO STDIN_FILENO STDOUT_FILENO close master_open os",
        "hidden|select setraw slave_open sys tcgetattr tcsetattr tty waitpid",
        "module|os sys tty",
        "of int|CHILD STDERR_FILENO STDIN_FILENO STDOUT_FILENO",
        "of list|__all__"]),
    ("pwd",
      ["builtin|getpwall getpwnam getpwuid",
        "class|struct_passwd"]),
    ("py_compile",
      ["class|PyCompileError PycInvalidationMode",
        "function|compile main",
        "hidden|enum importlib os sys traceback",
        "module|enum importlib os sys traceback",
        "of list|__all__"]),
    ("pyclbr",
      ["class|Class Function",
        "function|readmodule readmodule_ex",
        "hidden|ast importlib sys",
        "module|ast importlib sys",
        "of list|__all__"]),
    ("pydoc",
      ["callable|help",
        "class|Doc ErrorDuringImport HTMLDoc HTMLRepr Helper ModuleScanner",
        "class|Repr=reprlib:Repr TextDoc TextRepr deque=collections:deque",
        "function|allmethods apropos browse classify_class_attrs classname cli cram",
        "function|describe doc format_exception_only getdoc getpager importfile isdata",
        "function|ispackage ispath locate pager parentname pathdirs pipepager plain",
        "function|plainpager render_doc replace resolve safeimport sort_attributes",
        "function|source_synopsis splitdoc stripid synopsis tempfilepager ttypager",
        "function|visiblename writedoc writedocs",
        "hidden|Doc ErrorDuringImport HTMLDoc HTMLRepr Helper ModuleScanner Repr TextDoc",
        "hidden|TextRepr allmethods apropos browse builtins classify_class_attrs",
        "hidden|classname cli cram deque describe doc format_exception_only getdoc",
        "hidden|getpager html importfile importlib inspect io isdata ispackage ispath",
        "hidden|locate os pager parentname pathdirs pipepager pkgutil plain plainpager",
        "hidden|plaintext platform re render_doc replace resolve safeimport",
        "hidden|sort_attributes source_synopsis splitdoc stripid synopsis sys sysconfig",
        "hidden|tempfilepager text time tokenize ttypager urllib visiblename warnings",
        "hidden|writedoc writedocs",
        "module|__future__ builtins importlib inspect io os pkgutil platform re sys",
        "module|sysconfig time tokenize urllib warnings",
        "of HTMLDoc|html",
        "of TextDoc|text",
        "of _PlainTextDoc|plaintext",
        "of list|__all__",
        "of str|__author__ __credits__ __date__"]),
    ("pyexpat",
      ["builtin|ErrorString ParserCreate",
        "class|XMLParserType=pyexpat:xmlparser",
        "exception|ExpatError=xml.parsers.expat:ExpatError",
        "exception|error=xml.parsers.expat:ExpatError",
        "module|errors=pyexpat.errors model=pyexpat.model",
        "of PyCapsule|expat_CAPI",
        "of int|XML_PARAM_ENTITY_PARSING_ALWAYS XML_PARAM_ENTITY_PARSING_NEVER",
        "of int|XML_PARAM_ENTITY_PARSING_UNLESS_STANDALONE",
        "of list|features",
        "of str|EXPAT_VERSION native_encoding",
        "of tuple|version_info"]),
    ("quopri",
      ["builtin|a2b_qp b2a_qp",
        "function|decode decodestring encode encodestring ishex main needsquoting quote",
        "function|unhex",
        "hidden|EMPTYSTRING ESCAPE HEX MAXLINESIZE a2b_qp b2a_qp ishex main needsquoting",
        "hidden|quote unhex",
        "of bytes|EMPTYSTRING ESCAPE HEX",
        "of int|MAXLINESIZE",
        "of list|__all__"]),
    ("readline",
      ["builtin|add_history append_history_file clear_history get_begidx get_completer",
        "builtin|get_completer_delims get_completion_type get_current_history_length",
        "builtin|get_endidx get_history_item get_history_length get_line_buffer",
        "builtin|insert_text parse_and_bind read_history_file read_init_file redisplay",
        "builtin|remove_history_item replace_history_item set_auto_history set_completer",
        "builtin|set_completer_delims set_completion_display_matches_hook",
        "builtin|set_history_length set_pre_input_hook set_startup_hook",
        "builtin|write_history_file"]),
    ("reprlib",
      ["builtin|get_ident",
        "callable|repr",
        "class|Repr islice=itertools:islice",
        "function|recursive_repr",
        "hidden|aRepr builtins get_ident islice",
        "module|builtins",
        "of Repr|aRepr",
        "of list|__all__"]),
    ("resource",
      ["builtin|getpagesize getrlimit getrusage prlimit setrlimit",
        "class|struct_rusage",
        "exception|error=builtins:OSError",
        "of int|RLIMIT_AS RLIMIT_CORE RLIMIT_CPU RLIMIT_DATA RLIMIT_FSIZE RLIMIT_MEMLOCK",
        "of int|RLIMIT_MSGQUEUE RLIMIT_NICE RLIMIT_NOFILE RLIMIT_NPROC RLIMIT_OFILE",
        "of int|RLIMIT_RSS RLIMIT_RTPRIO RLIMIT_RTTIME RLIMIT_SIGPENDING RLIMIT_STACK",
        "of int|RLIM_INFINITY RUSAGE_CHILDREN RUSAGE_SELF RUSAGE_THREAD"]),
    ("rlcompleter",
      ["class|Completer",
        "function|get_class_members",
        "hidden|atexit builtins get_class_members inspect keyword re readline",
        "module|__main__ atexit builtins inspect keyword re readline",
        "of list|__all__"]),
    ("runpy",
      ["class|ModuleType=builtins:module",
        "function|run_module run_path",
        "hidden|ModuleType importlib io os sys",
        "module|importlib io os sys",
        "of list|__all__"]),
    ("sched",
      ["class|Event count=itertools:count scheduler",
        "function|namedtuple",
        "hidden|Event count heapq namedtuple threading time",
        "module|heapq threading time",
        "of list|__all__"]),
    ("select",
      ["builtin|poll select",
        "class|epoll",
        "exception|error=builtins:OSError",
        "of int|EPOLLERR EPOLLET EPOLLHUP EPOLLIN EPOLLMSG EPOLLONESHOT EPOLLOUT EPOLLPRI",
        "of int|EPOLLRDBAND EPOLLRDHUP EPOLLRDNORM EPOLLWRBAND EPOLLWRNORM EPOLL_CLOEXEC",
        "of int|PIPE_BUF POLLERR POLLHUP POLLIN POLLMSG POLLNVAL POLLOUT POLLPRI",
        "of int|POLLRDBAND POLLRDHUP POLLRDNORM POLLWRBAND POLLWRNORM"]),
    ("selectors",
      ["class|ABCMeta=abc:ABCMeta BaseSelector DefaultSelector=selectors:EpollSelector",
        "class|EpollSelector Mapping=collections.abc:Mapping PollSelector SelectSelector",
        "class|SelectorKey",
        "function|abstractmethod namedtuple",
        "module|math select sys",
        "of int|EVENT_READ EVENT_WRITE"]),
    ("shelve",
      ["class|BsdDbShelf BytesIO=_io:BytesIO DbfilenameShelf Pickler=_pickle:Pickler",
        "class|Shelf Unpickler=_pickle:Unpickler",
        "function|open",
        "hidden|BytesIO DEFAULT_PROTOCOL Pickler Unpickler collections",
        "module|collections",
        "of int|DEFAULT_PROTOCOL",
        "of list|__all__"]),
    ("shlex",
      ["class|StringIO=_io:StringIO deque=collections:deque shlex",
        "function|join quote split",
        "hidden|StringIO deque os re sys",
        "module|os re sys",
        "of list|__all__"]),
    ("signal",
      ["builtin|alarm default_int_handler getitimer pause pthread_kill raise_signal",
        "builtin|set_wakeup_fd setitimer siginterrupt sigtimedwait sigwaitinfo strsignal",
        "class|Handlers Sigmasks Signals struct_siginfo",
        "exception|ItimerError=signal:itimer_error",
        "function|getsignal pthread_sigmask signal sigpending sigwait valid_signals",
        "of Handlers|SIG_DFL SIG_IGN",
        "of Sigmasks|SIG_BLOCK SIG_SETMASK SIG_UNBLOCK",
        "of Signals|SIGABRT SIGALRM SIGBUS SIGCHLD SIGCLD SIGCONT SIGFPE SIGHUP SIGILL",
        "of Signals|SIGINT SIGIO SIGIOT SIGKILL SIGPIPE SIGPOLL SIGPROF SIGPWR SIGQUIT",
        "of Signals|SIGRTMAX SIGRTMIN SIGSEGV SIGSTKFLT SIGSTOP SIGSYS SIGTERM SIGTRAP",
        "of Signals|SIGTSTP SIGTTIN SIGTTOU SIGURG SIGUSR1 SIGUSR2 SIGVTALRM SIGWINCH",
        "of Signals|SIGXCPU SIGXFSZ",
        "of int|ITIMER_PROF ITIMER_REAL ITIMER_VIRTUAL NSIG"]),
    ("site",
      ["function|abs_paths addpackage addsitedir addsitepackages addusersitepackages",
        "function|check_enableusersite enablerlcompleter execsitecustomize",
        "function|execusercustomize getsitepackages getuserbase getusersitepackages main",
        "function|makepath removeduppaths setcopyright sethelper setquit venv",
        "module|builtins io os stat sys",
        "of bool|ENABLE_USER_SITE",
        "of list|PREFIXES",
        "of str|USER_BASE USER_SITE"]),
    ("smtpd",
      ["builtin|warn",
        "class|DebuggingServer Devnull Options PureProxy SMTPChannel SMTPServer",
        "function|get_addr_spec get_angle_addr parseargs usage",
        "hidden|COMMASPACE DATA_SIZE_DEFAULT DEBUGSTREAM Devnull NEWLINE Options asynchat",
        "hidden|asyncore collections errno get_addr_spec get_angle_addr getopt os",
        "hidden|parseargs program socket sys time usage warn",
        "module|asynchat asyncore collections errno getopt os socket sys time",
        "of Devnull|DEBUGSTREAM",
        "of int|DATA_SIZE_DEFAULT",
        "of list|__all__",
        "of str|COMMASPACE NEWLINE __version__ program"]),
    ("smtplib",
      ["class|LMTP SMTP SMTPAuthenticationError SMTPConnectError SMTPDataError",
        "class|SMTPHeloError SMTPResponseException SMTPSenderRefused SMTP_SSL",
        "exception|SMTPException SMTPNotSupportedError SMTPRecipientsRefused",
        "exception|SMTPServerDisconnected",
        "function|encode_base64 quoteaddr quotedata",
        "hidden|CRLF LMTP LMTP_PORT OLDSTYLE_AUTH SMTP_PORT SMTP_SSL_PORT bCRLF base64",
        "hidden|copy datetime email encode_base64 hmac io re socket ssl sys",
        "module|base64 copy datetime email hmac io re socket ssl sys",
        "of bytes|bCRLF",
        "of int|LMTP_PORT SMTP_PORT SMTP_SSL_PORT",
        "of list|__all__",
        "of re.Pattern|OLDSTYLE_AUTH",
        "of str|CRLF"]),
    ("sndhdr",
      ["class|SndHeaders",
        "function|get_long_be get_long_le get_short_be get_short_le namedtuple test",
        "function|test_8svx test_aifc test_au test_hcom test_sndr test_sndt test_voc",
        "function|test_wav testall what whathdr",
        "hidden|SndHeaders get_long_be get_long_le get_short_be get_short_le namedtuple",
        "hidden|test test_8svx test_aifc test_au test_hcom test_sndr test_sndt test_voc",
        "hidden|test_wav testall tests warnings",
        "module|warnings",
        "of list|__all__ tests"]),
    ("socket",
      ["builtin|CMSG_LEN CMSG_SPACE close dup getdefaulttimeout gethostbyaddr",
        "builtin|gethostbyname gethostbyname_ex gethostname getnameinfo getprotobyname",
        "builtin|getservbyname getservbyport htonl htons if_indextoname if_nameindex",
        "builtin|if_nametoindex inet_aton inet_ntoa inet_ntop inet_pton ntohl ntohs",
        "builtin|setdefaulttimeout sethostname",
        "class|AddressFamily AddressInfo IntEnum=enum:IntEnum IntFlag=enum:IntFlag",
        "class|MsgFlag SocketIO SocketKind SocketType=_socket:socket socket",
        "exception|error=builtins:OSError gaierror herror timeout=builtins:TimeoutError",
        "function|create_connection create_server fromfd getaddrinfo getfqdn",
        "function|has_dualstack_ipv6 recv_fds send_fds socketpair",
        "hidden|AddressInfo EAGAIN EBADF EWOULDBLOCK IntEnum IntFlag MsgFlag SocketIO",
        "hidden|array errno io os selectors sys",
        "module|array errno io os selectors sys",
        "of AddressFamily|AF_ALG AF_APPLETALK AF_ASH AF_ATMPVC AF_ATMSVC AF_AX25",
        "of AddressFamily|AF_BRIDGE AF_CAN AF_ECONET AF_INET AF_INET6 AF_IPX AF_IRDA",
        "of AddressFamily|AF_KEY AF_LLC AF_NETBEUI AF_NETLINK AF_NETROM AF_PACKET",
        "of AddressFamily|AF_PPPOX AF_RDS AF_ROSE AF_ROUTE AF_SECURITY AF_SNA AF_TIPC",
        "of AddressFamily|AF_UNIX AF_UNSPEC AF_WANPIPE AF_X25",
        "of AddressInfo|AI_ADDRCONFIG AI_ALL AI_CANONNAME AI_NUMERICHOST AI_NUMERICSERV",
        "of AddressInfo|AI_PASSIVE AI_V4MAPPED",
        "of MsgFlag|MSG_CMSG_CLOEXEC MSG_CONFIRM MSG_CTRUNC MSG_DONTROUTE MSG_DONTWAIT",
        "of MsgFlag|MSG_EOR MSG_ERRQUEUE MSG_FASTOPEN MSG_MORE MSG_NOSIGNAL MSG_OOB",
        "of MsgFlag|MSG_PEEK MSG_TRUNC MSG_WAITALL",
        "of PyCapsule|CAPI",
        "of SocketKind|SOCK_CLOEXEC SOCK_DGRAM SOCK_NONBLOCK SOCK_RAW SOCK_RDM",
        "of SocketKind|SOCK_SEQPACKET SOCK_STREAM",
        "of bool|has_ipv6",
        "of int|AF_DECnet ALG_OP_DECRYPT ALG_OP_ENCRYPT ALG_OP_SIGN ALG_OP_VERIFY",
        "of int|ALG_SET_AEAD_ASSOCLEN ALG_SET_AEAD_AUTHSIZE ALG_SET_IV ALG_SET_KEY",
        "of int|ALG_SET_OP ALG_SET_PUBKEY CAN_BCM CAN_BCM_RX_ANNOUNCE_RESUME",
        "of int|CAN_BCM_RX_CHANGED CAN_BCM_RX_CHECK_DLC CAN_BCM_RX_DELETE",
        "of int|CAN_BCM_RX_FILTER_ID CAN_BCM_RX_NO_AUTOTIMER CAN_BCM_RX_READ",
        "of int|CAN_BCM_RX_RTR_FRAME CAN_BCM_RX_SETUP CAN_BCM_RX_STATUS",
        "of int|CAN_BCM_RX_TIMEOUT CAN_BCM_SETTIMER CAN_BCM_STARTTIMER",
        "of int|CAN_BCM_TX_ANNOUNCE CAN_BCM_TX_COUNTEVT CAN_BCM_TX_CP_CAN_ID",
        "of int|CAN_BCM_TX_DELETE CAN_BCM_TX_EXPIRED CAN_BCM_TX_READ",
        "of int|CAN_BCM_TX_RESET_MULTI_IDX CAN_BCM_TX_SEND CAN_BCM_TX_SETUP",
        "of int|CAN_BCM_TX_STATUS CAN_EFF_FLAG CAN_EFF_MASK CAN_ERR_FLAG CAN_ERR_MASK",
        "of int|CAN_ISOTP CAN_RAW CAN_RAW_FD_FRAMES CAN_RAW_FILTER CAN_RAW_LOOPBACK",
        "of int|CAN_RAW_RECV_OWN_MSGS CAN_RTR_FLAG CAN_SFF_MASK EAGAIN EAI_ADDRFAMILY",
        "of int|EAI_AGAIN EAI_BADFLAGS EAI_FAIL EAI_FAMILY EAI_MEMORY EAI_NODATA",
        "of int|EAI_NONAME EAI_OVERFLOW EAI_SERVICE EAI_SOCKTYPE EAI_SYSTEM EBADF",
        "of int|EWOULDBLOCK INADDR_ALLHOSTS_GROUP INADDR_ANY INADDR_BROADCAST",
        "of int|INADDR_LOOPBACK INADDR_MAX_LOCAL_GROUP INADDR_NONE INADDR_UNSPEC_GROUP",
        "of int|IPPORT_RESERVED IPPORT_USERRESERVED IPPROTO_AH IPPROTO_DSTOPTS",
        "of int|IPPROTO_EGP IPPROTO_ESP IPPROTO_FRAGMENT IPPROTO_GRE IPPROTO_HOPOPTS",
        "of int|IPPROTO_ICMP IPPROTO_ICMPV6 IPPROTO_IDP IPPROTO_IGMP IPPROTO_IP",
        "of int|IPPROTO_IPIP IPPROTO_IPV6 IPPROTO_NONE IPPROTO_PIM IPPROTO_PUP",
        "of int|IPPROTO_RAW IPPROTO_ROUTING IPPROTO_RSVP IPPROTO_SCTP IPPROTO_TCP",
        "of int|IPPROTO_TP IPPROTO_UDP IPPROTO_UDPLITE IPV6_CHECKSUM IPV6_DSTOPTS",
        "of int|IPV6_HOPLIMIT IPV6_HOPOPTS IPV6_JOIN_GROUP IPV6_LEAVE_GROUP",
        "of int|IPV6_MULTICAST_HOPS IPV6_MULTICAST_IF IPV6_MULTICAST_LOOP IPV6_NEXTHOP",
        "of int|IPV6_PKTINFO IPV6_RECVDSTOPTS IPV6_RECVHOPLIMIT IPV6_RECVHOPOPTS",
        "of int|IPV6_RECVPKTINFO IPV6_RECVRTHDR IPV6_RECVTCLASS IPV6_RTHDR",
        "of int|IPV6_RTHDRDSTOPTS IPV6_RTHDR_TYPE_0 IPV6_TCLASS IPV6_UNICAST_HOPS",
        "of int|IPV6_V6ONLY IP_ADD_MEMBERSHIP IP_DEFAULT_MULTICAST_LOOP",
        "of int|IP_DEFAULT_MULTICAST_TTL IP_DROP_MEMBERSHIP IP_HDRINCL IP_MAX_MEMBERSHIPS",
        "of int|IP_MULTICAST_IF IP_MULTICAST_LOOP IP_MULTICAST_TTL IP_OPTIONS IP_RECVOPTS",
        "of int|IP_RECVRETOPTS IP_RECVTOS IP_RETOPTS IP_TOS IP_TRANSPARENT IP_TTL",
        "of int|NETLINK_CRYPTO NETLINK_DNRTMSG NETLINK_FIREWALL NETLINK_IP6_FW",
        "of int|NETLINK_NFLOG NETLINK_ROUTE NETLINK_USERSOCK NETLINK_XFRM NI_DGRAM",
        "of int|NI_MAXHOST NI_MAXSERV NI_NAMEREQD NI_NOFQDN NI_NUMERICHOST NI_NUMERICSERV",
        "of int|PACKET_BROADCAST PACKET_FASTROUTE PACKET_HOST PACKET_LOOPBACK",
        "of int|PACKET_MULTICAST PACKET_OTHERHOST PACKET_OUTGOING PF_CAN PF_PACKET PF_RDS",
        "of int|SCM_CREDENTIALS SCM_RIGHTS SHUT_RD SHUT_RDWR SHUT_WR SOL_ALG SOL_CAN_BASE",
        "of int|SOL_CAN_RAW SOL_IP SOL_SOCKET SOL_TCP SOL_TIPC SOL_UDP SOMAXCONN",
        "of int|SO_ACCEPTCONN SO_BINDTODEVICE SO_BROADCAST SO_DEBUG SO_DOMAIN",
        "of int|SO_DONTROUTE SO_ERROR SO_KEEPALIVE SO_LINGER SO_MARK SO_OOBINLINE",
        "of int|SO_PASSCRED SO_PASSSEC SO_PEERCRED SO_PEERSEC SO_PRIORITY SO_PROTOCOL",
        "of int|SO_RCVBUF SO_RCVLOWAT SO_RCVTIMEO SO_REUSEADDR SO_REUSEPORT SO_SNDBUF",
        "of int|SO_SNDLOWAT SO_SNDTIMEO SO_TYPE TCP_CONGESTION TCP_CORK TCP_DEFER_ACCEPT",
        "of int|TCP_FASTOPEN TCP_INFO TCP_KEEPCNT TCP_KEEPIDLE TCP_KEEPINTVL TCP_LINGER2",
        "of int|TCP_MAXSEG TCP_NODELAY TCP_QUICKACK TCP_SYNCNT TCP_USER_TIMEOUT",
        "of int|TCP_WINDOW_CLAMP TIPC_ADDR_ID TIPC_ADDR_NAME TIPC_ADDR_NAMESEQ",
        "of int|TIPC_CFG_SRV TIPC_CLUSTER_SCOPE TIPC_CONN_TIMEOUT",
        "of int|TIPC_CRITICAL_IMPORTANCE TIPC_DEST_DROPPABLE TIPC_HIGH_IMPORTANCE",
        "of int|TIPC_IMPORTANCE TIPC_LOW_IMPORTANCE TIPC_MEDIUM_IMPORTANCE",
        "of int|TIPC_NODE_SCOPE TIPC_PUBLISHED TIPC_SRC_DROPPABLE TIPC_SUBSCR_TIMEOUT",
        "of int|TIPC_SUB_CANCEL TIPC_SUB_PORTS TIPC_SUB_SERVICE TIPC_TOP_SRV",
        "of int|TIPC_WAIT_FOREVER TIPC_WITHDRAWN TIPC_ZONE_SCOPE UDPLITE_RECV_CSCOV",
        "of int|UDPLITE_SEND_CSCOV",
        "of list|__all__"]),
    ("socketserver",
      ["builtin|time",
        "class|BaseRequestHandler BaseServer BufferedIOBase=io:BufferedIOBase",
        "class|DatagramRequestHandler ForkingMixIn ForkingTCPServer ForkingUDPServer",
        "class|StreamRequestHandler TCPServer ThreadingMixIn ThreadingTCPServer",
        "class|ThreadingUDPServer ThreadingUnixDatagramServer ThreadingUnixStreamServer",
        "class|UDPServer UnixDatagramServer UnixStreamServer",
        "hidden|BufferedIOBase os selectors socket sys threading time",
        "module|os selectors socket sys threading",
        "of list|__all__",
        "of str|__version__"]),
    ("spwd",
      ["builtin|getspall getspnam",
        "class|struct_spwd"]),
    ("sqlite3",
      ["builtin|adapt complete_statement connect enable_callback_tracebacks",
        "builtin|register_adapter register_converter",
        "class|Binary=builtins:memoryview Blob Connection Cursor Date=datetime:date",
        "class|PrepareProtocol Row Time=datetime:time Timestamp=datetime:datetime",
        "exception|DataError DatabaseError Error IntegrityError InterfaceError",
        "exception|InternalError NotSupportedError OperationalError ProgrammingError",
        "exception|Warning",
        "function|DateFromTicks TimeFromTicks TimestampFromTicks __getattr__",
        "function|enable_shared_cache",
        "module|collections datetime dbapi2=sqlite3.dbapi2 time",
        "of dict|adapters converters",
        "of int|PARSE_COLNAMES PARSE_DECLTYPES SQLITE_ABORT SQLITE_ABORT_ROLLBACK",
        "of int|SQLITE_ALTER_TABLE SQLITE_ANALYZE SQLITE_ATTACH SQLITE_AUTH",
        "of int|SQLITE_AUTH_USER SQLITE_BUSY SQLITE_BUSY_RECOVERY SQLITE_BUSY_SNAPSHOT",
        "of int|SQLITE_BUSY_TIMEOUT SQLITE_CANTOPEN SQLITE_CANTOPEN_CONVPATH",
        "of int|SQLITE_CANTOPEN_DIRTYWAL SQLITE_CANTOPEN_FULLPATH SQLITE_CANTOPEN_ISDIR",
        "of int|SQLITE_CANTOPEN_NOTEMPDIR SQLITE_CANTOPEN_SYMLINK SQLITE_CONSTRAINT",
        "of int|SQLITE_CONSTRAINT_CHECK SQLITE_CONSTRAINT_COMMITHOOK",
        "of int|SQLITE_CONSTRAINT_FOREIGNKEY SQLITE_CONSTRAINT_FUNCTION",
        "of int|SQLITE_CONSTRAINT_NOTNULL SQLITE_CONSTRAINT_PINNED",
        "of int|SQLITE_CONSTRAINT_PRIMARYKEY SQLITE_CONSTRAINT_ROWID",
        "of int|SQLITE_CONSTRAINT_TRIGGER SQLITE_CONSTRAINT_UNIQUE SQLITE_CONSTRAINT_VTAB",
        "of int|SQLITE_CORRUPT SQLITE_CORRUPT_INDEX SQLITE_CORRUPT_SEQUENCE",
        "of int|SQLITE_CORRUPT_VTAB SQLITE_CREATE_INDEX SQLITE_CREATE_TABLE",
        "of int|SQLITE_CREATE_TEMP_INDEX SQLITE_CREATE_TEMP_TABLE",
        "of int|SQLITE_CREATE_TEMP_TRIGGER SQLITE_CREATE_TEMP_VIEW SQLITE_CREATE_TRIGGER",
        "of int|SQLITE_CREATE_VIEW SQLITE_CREATE_VTABLE SQLITE_DELETE SQLITE_DENY",
        "of int|SQLITE_DETACH SQLITE_DONE SQLITE_DROP_INDEX SQLITE_DROP_TABLE",
        "of int|SQLITE_DROP_TEMP_INDEX SQLITE_DROP_TEMP_TABLE SQLITE_DROP_TEMP_TRIGGER",
        "of int|SQLITE_DROP_TEMP_VIEW SQLITE_DROP_TRIGGER SQLITE_DROP_VIEW",
        "of int|SQLITE_DROP_VTABLE SQLITE_EMPTY SQLITE_ERROR SQLITE_ERROR_MISSING_COLLSEQ",
        "of int|SQLITE_ERROR_RETRY SQLITE_ERROR_SNAPSHOT SQLITE_FORMAT SQLITE_FULL",
        "of int|SQLITE_FUNCTION SQLITE_IGNORE SQLITE_INSERT SQLITE_INTERNAL",
        "of int|SQLITE_INTERRUPT SQLITE_IOERR SQLITE_IOERR_ACCESS SQLITE_IOERR_AUTH",
        "of int|SQLITE_IOERR_BEGIN_ATOMIC SQLITE_IOERR_BLOCKED",
        "of int|SQLITE_IOERR_CHECKRESERVEDLOCK SQLITE_IOERR_CLOSE",
        "of int|SQLITE_IOERR_COMMIT_ATOMIC SQLITE_IOERR_CONVPATH SQLITE_IOERR_CORRUPTFS",
        "of int|SQLITE_IOERR_DATA SQLITE_IOERR_DELETE SQLITE_IOERR_DELETE_NOENT",
        "of int|SQLITE_IOERR_DIR_CLOSE SQLITE_IOERR_DIR_FSYNC SQLITE_IOERR_FSTAT",
        "of int|SQLITE_IOERR_FSYNC SQLITE_IOERR_GETTEMPPATH SQLITE_IOERR_LOCK",
        "of int|SQLITE_IOERR_MMAP SQLITE_IOERR_NOMEM SQLITE_IOERR_RDLOCK",
        "of int|SQLITE_IOERR_READ SQLITE_IOERR_ROLLBACK_ATOMIC SQLITE_IOERR_SEEK",
        "of int|SQLITE_IOERR_SHMLOCK SQLITE_IOERR_SHMMAP SQLITE_IOERR_SHMOPEN",
        "of int|SQLITE_IOERR_SHMSIZE SQLITE_IOERR_SHORT_READ SQLITE_IOERR_TRUNCATE",
        "of int|SQLITE_IOERR_UNLOCK SQLITE_IOERR_VNODE SQLITE_IOERR_WRITE",
        "of int|SQLITE_LIMIT_ATTACHED SQLITE_LIMIT_COLUMN SQLITE_LIMIT_COMPOUND_SELECT",
        "of int|SQLITE_LIMIT_EXPR_DEPTH SQLITE_LIMIT_FUNCTION_ARG SQLITE_LIMIT_LENGTH",
        "of int|SQLITE_LIMIT_LIKE_PATTERN_LENGTH SQLITE_LIMIT_SQL_LENGTH",
        "of int|SQLITE_LIMIT_TRIGGER_DEPTH SQLITE_LIMIT_VARIABLE_NUMBER",
        "of int|SQLITE_LIMIT_VDBE_OP SQLITE_LIMIT_WORKER_THREADS SQLITE_LOCKED",
        "of int|SQLITE_LOCKED_SHAREDCACHE SQLITE_LOCKED_VTAB SQLITE_MISMATCH",
        "of int|SQLITE_MISUSE SQLITE_NOLFS SQLITE_NOMEM SQLITE_NOTADB SQLITE_NOTFOUND",
        "of int|SQLITE_NOTICE SQLITE_NOTICE_RECOVER_ROLLBACK SQLITE_NOTICE_RECOVER_WAL",
        "of int|SQLITE_OK SQLITE_OK_LOAD_PERMANENTLY SQLITE_OK_SYMLINK SQLITE_PERM",
        "of int|SQLITE_PRAGMA SQLITE_PROTOCOL SQLITE_RANGE SQLITE_READ SQLITE_READONLY",
        "of int|SQLITE_READONLY_CANTINIT SQLITE_READONLY_CANTLOCK SQLITE_READONLY_DBMOVED",
        "of int|SQLITE_READONLY_DIRECTORY SQLITE_READONLY_RECOVERY",
        "of int|SQLITE_READONLY_ROLLBACK SQLITE_RECURSIVE SQLITE_REINDEX SQLITE_ROW",
        "of int|SQLITE_SAVEPOINT SQLITE_SCHEMA SQLITE_SELECT SQLITE_TOOBIG",
        "of int|SQLITE_TRANSACTION SQLITE_UPDATE SQLITE_WARNING SQLITE_WARNING_AUTOINDEX",
        "of int|threadsafety",
        "of str|apilevel paramstyle sqlite_version version",
        "of tuple|sqlite_version_info version_info"]),
    ("sqlite3.dbapi2",
      ["builtin|adapt complete_statement connect enable_callback_tracebacks",
        "builtin|register_adapter register_converter",
        "class|Binary=builtins:memoryview Blob=sqlite3:Blob Connection=sqlite3:Connection",
        "class|Cursor=sqlite3:Cursor Date=datetime:date",
        "class|PrepareProtocol=sqlite3:PrepareProtocol Row=sqlite3:Row Time=datetime:time",
        "class|Timestamp=datetime:datetime",
        "exception|DataError=sqlite3:DataError DatabaseError=sqlite3:DatabaseError",
        "exception|Error=sqlite3:Error IntegrityError=sqlite3:IntegrityError",
        "exception|InterfaceError=sqlite3:InterfaceError",
        "exception|InternalError=sqlite3:InternalError",
        "exception|NotSupportedError=sqlite3:NotSupportedError",
        "exception|OperationalError=sqlite3:OperationalError",
        "exception|ProgrammingError=sqlite3:ProgrammingError Warning=sqlite3:Warning",
        "function|DateFromTicks TimeFromTicks TimestampFromTicks enable_shared_cache",
        "module|collections datetime time",
        "of dict|adapters converters",
        "of int|PARSE_COLNAMES PARSE_DECLTYPES SQLITE_ABORT SQLITE_ABORT_ROLLBACK",
        "of int|SQLITE_ALTER_TABLE SQLITE_ANALYZE SQLITE_ATTACH SQLITE_AUTH",
        "of int|SQLITE_AUTH_USER SQLITE_BUSY SQLITE_BUSY_RECOVERY SQLITE_BUSY_SNAPSHOT",
        "of int|SQLITE_BUSY_TIMEOUT SQLITE_CANTOPEN SQLITE_CANTOPEN_CONVPATH",
        "of int|SQLITE_CANTOPEN_DIRTYWAL SQLITE_CANTOPEN_FULLPATH SQLITE_CANTOPEN_ISDIR",
        "of int|SQLITE_CANTOPEN_NOTEMPDIR SQLITE_CANTOPEN_SYMLINK SQLITE_CONSTRAINT",
        "of int|SQLITE_CONSTRAINT_CHECK SQLITE_CONSTRAINT_COMMITHOOK",
        "of int|SQLITE_CONSTRAINT_FOREIGNKEY SQLITE_CONSTRAINT_FUNCTION",
        "of int|SQLITE_CONSTRAINT_NOTNULL SQLITE_CONSTRAINT_PINNED",
        "of int|SQLITE_CONSTRAINT_PRIMARYKEY SQLITE_CONSTRAINT_ROWID",
        "of int|SQLITE_CONSTRAINT_TRIGGER SQLITE_CONSTRAINT_UNIQUE SQLITE_CONSTRAINT_VTAB",
        "of int|SQLITE_CORRUPT SQLITE_CORRUPT_INDEX SQLITE_CORRUPT_SEQUENCE",
        "of int|SQLITE_CORRUPT_VTAB SQLITE_CREATE_INDEX SQLITE_CREATE_TABLE",
        "of int|SQLITE_CREATE_TEMP_INDEX SQLITE_CREATE_TEMP_TABLE",
        "of int|SQLITE_CREATE_TEMP_TRIGGER SQLITE_CREATE_TEMP_VIEW SQLITE_CREATE_TRIGGER",
        "of int|SQLITE_CREATE_VIEW SQLITE_CREATE_VTABLE SQLITE_DELETE SQLITE_DENY",
        "of int|SQLITE_DETACH SQLITE_DONE SQLITE_DROP_INDEX SQLITE_DROP_TABLE",
        "of int|SQLITE_DROP_TEMP_INDEX SQLITE_DROP_TEMP_TABLE SQLITE_DROP_TEMP_TRIGGER",
        "of int|SQLITE_DROP_TEMP_VIEW SQLITE_DROP_TRIGGER SQLITE_DROP_VIEW",
        "of int|SQLITE_DROP_VTABLE SQLITE_EMPTY SQLITE_ERROR SQLITE_ERROR_MISSING_COLLSEQ",
        "of int|SQLITE_ERROR_RETRY SQLITE_ERROR_SNAPSHOT SQLITE_FORMAT SQLITE_FULL",
        "of int|SQLITE_FUNCTION SQLITE_IGNORE SQLITE_INSERT SQLITE_INTERNAL",
        "of int|SQLITE_INTERRUPT SQLITE_IOERR SQLITE_IOERR_ACCESS SQLITE_IOERR_AUTH",
        "of int|SQLITE_IOERR_BEGIN_ATOMIC SQLITE_IOERR_BLOCKED",
        "of int|SQLITE_IOERR_CHECKRESERVEDLOCK SQLITE_IOERR_CLOSE",
        "of int|SQLITE_IOERR_COMMIT_ATOMIC SQLITE_IOERR_CONVPATH SQLITE_IOERR_CORRUPTFS",
        "of int|SQLITE_IOERR_DATA SQLITE_IOERR_DELETE SQLITE_IOERR_DELETE_NOENT",
        "of int|SQLITE_IOERR_DIR_CLOSE SQLITE_IOERR_DIR_FSYNC SQLITE_IOERR_FSTAT",
        "of int|SQLITE_IOERR_FSYNC SQLITE_IOERR_GETTEMPPATH SQLITE_IOERR_LOCK",
        "of int|SQLITE_IOERR_MMAP SQLITE_IOERR_NOMEM SQLITE_IOERR_RDLOCK",
        "of int|SQLITE_IOERR_READ SQLITE_IOERR_ROLLBACK_ATOMIC SQLITE_IOERR_SEEK",
        "of int|SQLITE_IOERR_SHMLOCK SQLITE_IOERR_SHMMAP SQLITE_IOERR_SHMOPEN",
        "of int|SQLITE_IOERR_SHMSIZE SQLITE_IOERR_SHORT_READ SQLITE_IOERR_TRUNCATE",
        "of int|SQLITE_IOERR_UNLOCK SQLITE_IOERR_VNODE SQLITE_IOERR_WRITE",
        "of int|SQLITE_LIMIT_ATTACHED SQLITE_LIMIT_COLUMN SQLITE_LIMIT_COMPOUND_SELECT",
        "of int|SQLITE_LIMIT_EXPR_DEPTH SQLITE_LIMIT_FUNCTION_ARG SQLITE_LIMIT_LENGTH",
        "of int|SQLITE_LIMIT_LIKE_PATTERN_LENGTH SQLITE_LIMIT_SQL_LENGTH",
        "of int|SQLITE_LIMIT_TRIGGER_DEPTH SQLITE_LIMIT_VARIABLE_NUMBER",
        "of int|SQLITE_LIMIT_VDBE_OP SQLITE_LIMIT_WORKER_THREADS SQLITE_LOCKED",
        "of int|SQLITE_LOCKED_SHAREDCACHE SQLITE_LOCKED_VTAB SQLITE_MISMATCH",
        "of int|SQLITE_MISUSE SQLITE_NOLFS SQLITE_NOMEM SQLITE_NOTADB SQLITE_NOTFOUND",
        "of int|SQLITE_NOTICE SQLITE_NOTICE_RECOVER_ROLLBACK SQLITE_NOTICE_RECOVER_WAL",
        "of int|SQLITE_OK SQLITE_OK_LOAD_PERMANENTLY SQLITE_OK_SYMLINK SQLITE_PERM",
        "of int|SQLITE_PRAGMA SQLITE_PROTOCOL SQLITE_RANGE SQLITE_READ SQLITE_READONLY",
        "of int|SQLITE_READONLY_CANTINIT SQLITE_READONLY_CANTLOCK SQLITE_READONLY_DBMOVED",
        "of int|SQLITE_READONLY_DIRECTORY SQLITE_READONLY_RECOVERY",
        "of int|SQLITE_READONLY_ROLLBACK SQLITE_RECURSIVE SQLITE_REINDEX SQLITE_ROW",
        "of int|SQLITE_SAVEPOINT SQLITE_SCHEMA SQLITE_SELECT SQLITE_TOOBIG",
        "of int|SQLITE_TRANSACTION SQLITE_UPDATE SQLITE_WARNING SQLITE_WARNING_AUTOINDEX",
        "of int|threadsafety",
        "of str|apilevel paramstyle sqlite_version version",
        "of tuple|sqlite_version_info version_info"]),
    ("sqlite3.dump", []),
    ("sre_compile",
      ["exception|error=re:error",
        "function|compile dis isstring",
        "module|warnings",
        "of _NamedIntConstant|ANY ANY_ALL ASSERT ASSERT_NOT AT ATOMIC_GROUP AT_BEGINNING",
        "of _NamedIntConstant|AT_BEGINNING_LINE AT_BEGINNING_STRING AT_BOUNDARY AT_END",
        "of _NamedIntConstant|AT_END_LINE AT_END_STRING AT_LOC_BOUNDARY",
        "of _NamedIntConstant|AT_LOC_NON_BOUNDARY AT_NON_BOUNDARY AT_UNI_BOUNDARY",
        "of _NamedIntConstant|AT_UNI_NON_BOUNDARY BIGCHARSET BRANCH CATEGORY",
        "of _NamedIntConstant|CATEGORY_DIGIT CATEGORY_LINEBREAK CATEGORY_LOC_NOT_WORD",
        "of _NamedIntConstant|CATEGORY_LOC_WORD CATEGORY_NOT_DIGIT CATEGORY_NOT_LINEBREAK",
        "of _NamedIntConstant|CATEGORY_NOT_SPACE CATEGORY_NOT_WORD CATEGORY_SPACE",
        "of _NamedIntConstant|CATEGORY_UNI_DIGIT CATEGORY_UNI_LINEBREAK",
        "of _NamedIntConstant|CATEGORY_UNI_NOT_DIGIT CATEGORY_UNI_NOT_LINEBREAK",
        "of _NamedIntConstant|CATEGORY_UNI_NOT_SPACE CATEGORY_UNI_NOT_WORD",
        "of _NamedIntConstant|CATEGORY_UNI_SPACE CATEGORY_UNI_WORD CATEGORY_WORD CHARSET",
        "of _NamedIntConstant|FAILURE GROUPREF GROUPREF_EXISTS GROUPREF_IGNORE",
        "of _NamedIntConstant|GROUPREF_LOC_IGNORE GROUPREF_UNI_IGNORE IN INFO IN_IGNORE",
        "of _NamedIntConstant|IN_LOC_IGNORE IN_UNI_IGNORE JUMP LITERAL LITERAL_IGNORE",
        "of _NamedIntConstant|LITERAL_LOC_IGNORE LITERAL_UNI_IGNORE MARK MAXREPEAT",
        "of _NamedIntConstant|MAX_REPEAT MAX_UNTIL MIN_REPEAT MIN_REPEAT_ONE MIN_UNTIL",
        "of _NamedIntConstant|NEGATE NOT_LITERAL NOT_LITERAL_IGNORE",
        "of _NamedIntConstant|NOT_LITERAL_LOC_IGNORE NOT_LITERAL_UNI_IGNORE",
        "of _NamedIntConstant|POSSESSIVE_REPEAT POSSESSIVE_REPEAT_ONE RANGE",
        "of _NamedIntConstant|RANGE_UNI_IGNORE REPEAT REPEAT_ONE SUBPATTERN SUCCESS",
        "of dict|AT_LOCALE AT_MULTILINE AT_UNICODE CH_LOCALE CH_UNICODE OP_IGNORE",
        "of dict|OP_LOCALE_IGNORE OP_UNICODE_IGNORE",
        "of int|MAGIC MAXCODE MAXGROUPS SRE_FLAG_ASCII SRE_FLAG_DEBUG SRE_FLAG_DOTALL",
        "of int|SRE_FLAG_IGNORECASE SRE_FLAG_LOCALE SRE_FLAG_MULTILINE SRE_FLAG_TEMPLATE",
        "of int|SRE_FLAG_UNICODE SRE_FLAG_VERBOSE SRE_INFO_CHARSET SRE_INFO_LITERAL",
        "of int|SRE_INFO_PREFIX",
        "of list|ATCODES CHCODES OPCODES"]),
    ("sre_constants",
      ["exception|error=re:error",
        "module|warnings",
        "of _NamedIntConstant|ANY ANY_ALL ASSERT ASSERT_NOT AT ATOMIC_GROUP AT_BEGINNING",
        "of _NamedIntConstant|AT_BEGINNING_LINE AT_BEGINNING_STRING AT_BOUNDARY AT_END",
        "of _NamedIntConstant|AT_END_LINE AT_END_STRING AT_LOC_BOUNDARY",
        "of _NamedIntConstant|AT_LOC_NON_BOUNDARY AT_NON_BOUNDARY AT_UNI_BOUNDARY",
        "of _NamedIntConstant|AT_UNI_NON_BOUNDARY BIGCHARSET BRANCH CATEGORY",
        "of _NamedIntConstant|CATEGORY_DIGIT CATEGORY_LINEBREAK CATEGORY_LOC_NOT_WORD",
        "of _NamedIntConstant|CATEGORY_LOC_WORD CATEGORY_NOT_DIGIT CATEGORY_NOT_LINEBREAK",
        "of _NamedIntConstant|CATEGORY_NOT_SPACE CATEGORY_NOT_WORD CATEGORY_SPACE",
        "of _NamedIntConstant|CATEGORY_UNI_DIGIT CATEGORY_UNI_LINEBREAK",
        "of _NamedIntConstant|CATEGORY_UNI_NOT_DIGIT CATEGORY_UNI_NOT_LINEBREAK",
        "of _NamedIntConstant|CATEGORY_UNI_NOT_SPACE CATEGORY_UNI_NOT_WORD",
        "of _NamedIntConstant|CATEGORY_UNI_SPACE CATEGORY_UNI_WORD CATEGORY_WORD CHARSET",
        "of _NamedIntConstant|FAILURE GROUPREF GROUPREF_EXISTS GROUPREF_IGNORE",
        "of _NamedIntConstant|GROUPREF_LOC_IGNORE GROUPREF_UNI_IGNORE IN INFO IN_IGNORE",
        "of _NamedIntConstant|IN_LOC_IGNORE IN_UNI_IGNORE JUMP LITERAL LITERAL_IGNORE",
        "of _NamedIntConstant|LITERAL_LOC_IGNORE LITERAL_UNI_IGNORE MARK MAXREPEAT",
        "of _NamedIntConstant|MAX_REPEAT MAX_UNTIL MIN_REPEAT MIN_REPEAT_ONE MIN_UNTIL",
        "of _NamedIntConstant|NEGATE NOT_LITERAL NOT_LITERAL_IGNORE",
        "of _NamedIntConstant|NOT_LITERAL_LOC_IGNORE NOT_LITERAL_UNI_IGNORE",
        "of _NamedIntConstant|POSSESSIVE_REPEAT POSSESSIVE_REPEAT_ONE RANGE",
        "of _NamedIntConstant|RANGE_UNI_IGNORE REPEAT REPEAT_ONE SUBPATTERN SUCCESS",
        "of dict|AT_LOCALE AT_MULTILINE AT_UNICODE CH_LOCALE CH_UNICODE OP_IGNORE",
        "of dict|OP_LOCALE_IGNORE OP_UNICODE_IGNORE",
        "of int|MAGIC MAXGROUPS SRE_FLAG_ASCII SRE_FLAG_DEBUG SRE_FLAG_DOTALL",
        "of int|SRE_FLAG_IGNORECASE SRE_FLAG_LOCALE SRE_FLAG_MULTILINE SRE_FLAG_TEMPLATE",
        "of int|SRE_FLAG_UNICODE SRE_FLAG_VERBOSE SRE_INFO_CHARSET SRE_INFO_LITERAL",
        "of int|SRE_INFO_PREFIX",
        "of list|ATCODES CHCODES OPCODES"]),
    ("sre_parse",
      ["class|State=re._parser:State SubPattern=re._parser:SubPattern",
        "class|Tokenizer=re._parser:Tokenizer",
        "exception|error=re:error",
        "function|expand_template fix_flags parse parse_template",
        "module|warnings",
        "of _NamedIntConstant|ANY ANY_ALL ASSERT ASSERT_NOT AT ATOMIC_GROUP AT_BEGINNING",
        "of _NamedIntConstant|AT_BEGINNING_LINE AT_BEGINNING_STRING AT_BOUNDARY AT_END",
        "of _NamedIntConstant|AT_END_LINE AT_END_STRING AT_LOC_BOUNDARY",
        "of _NamedIntConstant|AT_LOC_NON_BOUNDARY AT_NON_BOUNDARY AT_UNI_BOUNDARY",
        "of _NamedIntConstant|AT_UNI_NON_BOUNDARY BIGCHARSET BRANCH CATEGORY",
        "of _NamedIntConstant|CATEGORY_DIGIT CATEGORY_LINEBREAK CATEGORY_LOC_NOT_WORD",
        "of _NamedIntConstant|CATEGORY_LOC_WORD CATEGORY_NOT_DIGIT CATEGORY_NOT_LINEBREAK",
        "of _NamedIntConstant|CATEGORY_NOT_SPACE CATEGORY_NOT_WORD CATEGORY_SPACE",
        "of _NamedIntConstant|CATEGORY_UNI_DIGIT CATEGORY_UNI_LINEBREAK",
        "of _NamedIntConstant|CATEGORY_UNI_NOT_DIGIT CATEGORY_UNI_NOT_LINEBREAK",
        "of _NamedIntConstant|CATEGORY_UNI_NOT_SPACE CATEGORY_UNI_NOT_WORD",
        "of _NamedIntConstant|CATEGORY_UNI_SPACE CATEGORY_UNI_WORD CATEGORY_WORD CHARSET",
        "of _NamedIntConstant|FAILURE GROUPREF GROUPREF_EXISTS GROUPREF_IGNORE",
        "of _NamedIntConstant|GROUPREF_LOC_IGNORE GROUPREF_UNI_IGNORE IN INFO IN_IGNORE",
        "of _NamedIntConstant|IN_LOC_IGNORE IN_UNI_IGNORE JUMP LITERAL LITERAL_IGNORE",
        "of _NamedIntConstant|LITERAL_LOC_IGNORE LITERAL_UNI_IGNORE MARK MAXREPEAT",
        "of _NamedIntConstant|MAX_REPEAT MAX_UNTIL MIN_REPEAT MIN_REPEAT_ONE MIN_UNTIL",
        "of _NamedIntConstant|NEGATE NOT_LITERAL NOT_LITERAL_IGNORE",
        "of _NamedIntConstant|NOT_LITERAL_LOC_IGNORE NOT_LITERAL_UNI_IGNORE",
        "of _NamedIntConstant|POSSESSIVE_REPEAT POSSESSIVE_REPEAT_ONE RANGE",
        "of _NamedIntConstant|RANGE_UNI_IGNORE REPEAT REPEAT_ONE SUBPATTERN SUCCESS",
        "of dict|AT_LOCALE AT_MULTILINE AT_UNICODE CATEGORIES CH_LOCALE CH_UNICODE",
        "of dict|ESCAPES FLAGS OP_IGNORE OP_LOCALE_IGNORE OP_UNICODE_IGNORE",
        "of frozenset|ASCIILETTERS DIGITS HEXDIGITS OCTDIGITS WHITESPACE",
        "of int|GLOBAL_FLAGS MAGIC MAXGROUPS MAXWIDTH SRE_FLAG_ASCII SRE_FLAG_DEBUG",
        "of int|SRE_FLAG_DOTALL SRE_FLAG_IGNORECASE SRE_FLAG_LOCALE SRE_FLAG_MULTILINE",
        "of int|SRE_FLAG_TEMPLATE SRE_FLAG_UNICODE SRE_FLAG_VERBOSE SRE_INFO_CHARSET",
        "of int|SRE_INFO_LITERAL SRE_INFO_PREFIX TYPE_FLAGS",
        "of list|ATCODES CHCODES OPCODES",
        "of str|REPEAT_CHARS SPECIAL_CHARS"]),
    ("ssl",
      ["builtin|RAND_add RAND_bytes RAND_pseudo_bytes RAND_status",
        "class|AlertDescription CertificateError=ssl:SSLCertVerificationError",
        "class|DefaultVerifyPaths MemoryBIO=_ssl:MemoryBIO Options Purpose",
        "class|SSLCertVerificationError SSLContext SSLEOFError SSLError SSLErrorNumber",
        "class|SSLObject SSLSession=_ssl:SSLSession SSLSocket SSLSyscallError",
        "class|SSLWantReadError SSLWantWriteError SSLZeroReturnError TLSVersion",
        "class|VerifyFlags VerifyMode socket=socket:socket",
        "exception|socket_error=builtins:OSError",
        "function|DER_cert_to_PEM_cert PEM_cert_to_DER_cert cert_time_to_seconds",
        "function|create_connection create_default_context get_default_verify_paths",
        "function|get_protocol_name get_server_certificate match_hostname namedtuple",
        "function|wrap_socket",
        "module|base64 errno os sys warnings",
        "of AlertDescription|ALERT_DESCRIPTION_ACCESS_DENIED",
        "of AlertDescription|ALERT_DESCRIPTION_BAD_CERTIFICATE",
        "of AlertDescription|ALERT_DESCRIPTION_BAD_CERTIFICATE_HASH_VALUE",
        "of AlertDescription|ALERT_DESCRIPTION_BAD_CERTIFICATE_STATUS_RESPONSE",
        "of AlertDescription|ALERT_DESCRIPTION_BAD_RECORD_MAC",
        "of AlertDescription|ALERT_DESCRIPTION_CERTIFICATE_EXPIRED",
        "of AlertDescription|ALERT_DESCRIPTION_CERTIFICATE_REVOKED",
        "of AlertDescription|ALERT_DESCRIPTION_CERTIFICATE_UNKNOWN",
        "of AlertDescription|ALERT_DESCRIPTION_CERTIFICATE_UNOBTAINABLE",
        "of AlertDescription|ALERT_DESCRIPTION_CLOSE_NOTIFY",
        "of AlertDescription|ALERT_DESCRIPTION_DECODE_ERROR",
        "of AlertDescription|ALERT_DESCRIPTION_DECOMPRESSION_FAILURE",
        "of AlertDescription|ALERT_DESCRIPTION_DECRYPT_ERROR",
        "of AlertDescription|ALERT_DESCRIPTION_HANDSHAKE_FAILURE",
        "of AlertDescription|ALERT_DESCRIPTION_ILLEGAL_PARAMETER",
        "of AlertDescription|ALERT_DESCRIPTION_INSUFFICIENT_SECURITY",
        "of AlertDescription|ALERT_DESCRIPTION_INTERNAL_ERROR",
        "of AlertDescription|ALERT_DESCRIPTION_NO_RENEGOTIATION",
        "of AlertDescription|ALERT_DESCRIPTION_PROTOCOL_VERSION",
        "of AlertDescription|ALERT_DESCRIPTION_RECORD_OVERFLOW",
        "of AlertDescription|ALERT_DESCRIPTION_UNEXPECTED_MESSAGE",
        "of AlertDescription|ALERT_DESCRIPTION_UNKNOWN_CA",
        "of AlertDescription|ALERT_DESCRIPTION_UNKNOWN_PSK_IDENTITY",
        "of AlertDescription|ALERT_DESCRIPTION_UNRECOGNIZED_NAME",
        "of AlertDescription|ALERT_DESCRIPTION_UNSUPPORTED_CERTIFICATE",
        "of AlertDescription|ALERT_DESCRIPTION_UNSUPPORTED_EXTENSION",
        "of AlertDescription|ALERT_DESCRIPTION_USER_CANCELLED",
        "of Options|OP_ALL OP_CIPHER_SERVER_PREFERENCE OP_ENABLE_MIDDLEBOX_COMPAT",
        "of Options|OP_IGNORE_UNEXPECTED_EOF OP_NO_COMPRESSION OP_NO_RENEGOTIATION",
        "of Options|OP_NO_SSLv2 OP_NO_SSLv3 OP_NO_TICKET OP_NO_TLSv1 OP_NO_TLSv1_1",
        "of Options|OP_NO_TLSv1_2 OP_NO_TLSv1_3 OP_SINGLE_DH_USE OP_SINGLE_ECDH_USE",
        "of SSLErrorNumber|SSL_ERROR_EOF SSL_ERROR_INVALID_ERROR_CODE SSL_ERROR_SSL",
        "of SSLErrorNumber|SSL_ERROR_SYSCALL SSL_ERROR_WANT_CONNECT SSL_ERROR_WANT_READ",
        "of SSLErrorNumber|SSL_ERROR_WANT_WRITE SSL_ERROR_WANT_X509_LOOKUP",
        "of SSLErrorNumber|SSL_ERROR_ZERO_RETURN",
        "of SocketKind|SOCK_STREAM",
        "of VerifyFlags|VERIFY_ALLOW_PROXY_CERTS VERIFY_CRL_CHECK_CHAIN",
        "of VerifyFlags|VERIFY_CRL_CHECK_LEAF VERIFY_DEFAULT VERIFY_X509_PARTIAL_CHAIN",
        "of VerifyFlags|VERIFY_X509_STRICT VERIFY_X509_TRUSTED_FIRST",
        "of VerifyMode|CERT_NONE CERT_OPTIONAL CERT_REQUIRED",
        "of _SSLMethod|PROTOCOL_SSLv23 PROTOCOL_TLS PROTOCOL_TLS_CLIENT",
        "of _SSLMethod|PROTOCOL_TLS_SERVER PROTOCOL_TLSv1 PROTOCOL_TLSv1_1",
        "of _SSLMethod|PROTOCOL_TLSv1_2",
        "of bool|HAS_ALPN HAS_ECDH HAS_NEVER_CHECK_COMMON_NAME HAS_NPN HAS_SNI HAS_SSLv2",
        "of bool|HAS_SSLv3 HAS_TLSv1 HAS_TLSv1_1 HAS_TLSv1_2 HAS_TLSv1_3",
        "of int|OPENSSL_VERSION_NUMBER SOL_SOCKET SO_TYPE",
        "of list|CHANNEL_BINDING_TYPES",
        "of str|OPENSSL_VERSION PEM_FOOTER PEM_HEADER",
        "of tuple|OPENSSL_VERSION_INFO"]),
    ("stat",
      ["builtin|S_IFMT S_IMODE S_ISBLK S_ISCHR S_ISDIR S_ISDOOR S_ISFIFO S_ISLNK",
        "builtin|S_ISPORT S_ISREG S_ISSOCK S_ISWHT filemode",
        "of int|FILE_ATTRIBUTE_ARCHIVE FILE_ATTRIBUTE_COMPRESSED FILE_ATTRIBUTE_DEVICE",
        "of int|FILE_ATTRIBUTE_DIRECTORY FILE_ATTRIBUTE_ENCRYPTED FILE_ATTRIBUTE_HIDDEN",
        "of int|FILE_ATTRIBUTE_INTEGRITY_STREAM FILE_ATTRIBUTE_NORMAL",
        "of int|FILE_ATTRIBUTE_NOT_CONTENT_INDEXED FILE_ATTRIBUTE_NO_SCRUB_DATA",
        "of int|FILE_ATTRIBUTE_OFFLINE FILE_ATTRIBUTE_READONLY",
        "of int|FILE_ATTRIBUTE_REPARSE_POINT FILE_ATTRIBUTE_SPARSE_FILE",
        "of int|FILE_ATTRIBUTE_SYSTEM FILE_ATTRIBUTE_TEMPORARY FILE_ATTRIBUTE_VIRTUAL",
        "of int|SF_APPEND SF_ARCHIVED SF_IMMUTABLE SF_NOUNLINK SF_SNAPSHOT ST_ATIME",
        "of int|ST_CTIME ST_DEV ST_GID ST_INO ST_MODE ST_MTIME ST_NLINK ST_SIZE ST_UID",
        "of int|S_ENFMT S_IEXEC S_IFBLK S_IFCHR S_IFDIR S_IFDOOR S_IFIFO S_IFLNK S_IFPORT",
        "of int|S_IFREG S_IFSOCK S_IFWHT S_IREAD S_IRGRP S_IROTH S_IRUSR S_IRWXG S_IRWXO",
        "of int|S_IRWXU S_ISGID S_ISUID S_ISVTX S_IWGRP S_IWOTH S_IWRITE S_IWUSR S_IXGRP",
        "of int|S_IXOTH S_IXUSR UF_APPEND UF_COMPRESSED UF_HIDDEN UF_IMMUTABLE UF_NODUMP",
        "of int|UF_NOUNLINK UF_OPAQUE"]),
    ("stringprep",
      ["function|in_table_a1 in_table_b1 in_table_c11 in_table_c11_c12 in_table_c12",
        "function|in_table_c21 in_table_c21_c22 in_table_c22 in_table_c3 in_table_c4",
        "function|in_table_c5 in_table_c6 in_table_c7 in_table_c8 in_table_c9 in_table_d1",
        "function|in_table_d2 map_table_b2 map_table_b3",
        "of dict|b3_exceptions",
        "of set|b1_set c22_specials c6_set c7_set c8_set c9_set",
        "of unicodedata.UCD|unicodedata"]),
    ("subprocess",
      ["class|CalledProcessError CompletedProcess Popen TimeoutExpired",
        "exception|SubprocessError",
        "function|call check_call check_output getoutput getstatusoutput list2cmdline run",
        "hidden|builtins contextlib errno fcntl io list2cmdline locale os select",
        "hidden|selectors signal sys threading time types warnings",
        "module|builtins contextlib errno fcntl io locale os select selectors signal sys",
        "module|threading time types warnings",
        "of int|DEVNULL PIPE STDOUT",
        "of list|__all__"]),
    ("sunau",
      ["class|Au_read Au_write",
        "exception|Error",
        "function|namedtuple open",
        "module|warnings",
        "of int|AUDIO_FILE_ENCODING_ADPCM_G721 AUDIO_FILE_ENCODING_ADPCM_G722",
        "of int|AUDIO_FILE_ENCODING_ADPCM_G723_3 AUDIO_FILE_ENCODING_ADPCM_G723_5",
        "of int|AUDIO_FILE_ENCODING_ALAW_8 AUDIO_FILE_ENCODING_DOUBLE",
        "of int|AUDIO_FILE_ENCODING_FLOAT AUDIO_FILE_ENCODING_LINEAR_16",
        "of int|AUDIO_FILE_ENCODING_LINEAR_24 AUDIO_FILE_ENCODING_LINEAR_32",
        "of int|AUDIO_FILE_ENCODING_LINEAR_8 AUDIO_FILE_ENCODING_MULAW_8 AUDIO_FILE_MAGIC",
        "of int|AUDIO_UNKNOWN_SIZE"]),
    ("symtable",
      ["class|Class Function Symbol SymbolTable SymbolTableFactory",
        "function|symtable",
        "hidden|CELL DEF_ANNOT DEF_BOUND DEF_GLOBAL DEF_IMPORT DEF_LOCAL DEF_NONLOCAL",
        "hidden|DEF_PARAM FREE GLOBAL_EXPLICIT GLOBAL_IMPLICIT LOCAL SCOPE_MASK SCOPE_OFF",
        "hidden|SymbolTableFactory USE weakref",
        "module|weakref",
        "of int|CELL DEF_ANNOT DEF_BOUND DEF_GLOBAL DEF_IMPORT DEF_LOCAL DEF_NONLOCAL",
        "of int|DEF_PARAM FREE GLOBAL_EXPLICIT GLOBAL_IMPLICIT LOCAL SCOPE_MASK SCOPE_OFF",
        "of int|USE",
        "of list|__all__"]),
    ("sysconfig",
      ["function|expand_makefile_vars get_config_h_filename get_config_var",
        "function|get_config_vars get_default_scheme get_makefile_filename get_path",
        "function|get_path_names get_paths get_platform get_preferred_scheme",
        "function|get_python_version get_scheme_names is_python_build parse_config_h",
        "function|realpath",
        "hidden|expand_makefile_vars get_default_scheme get_preferred_scheme",
        "hidden|is_python_build os pardir realpath sys",
        "module|os sys",
        "of list|__all__",
        "of str|pardir"]),
    ("syslog",
      ["builtin|LOG_MASK LOG_UPTO closelog openlog setlogmask syslog",
        "of int|LOG_ALERT LOG_AUTH LOG_AUTHPRIV LOG_CONS LOG_CRIT LOG_CRON LOG_DAEMON",
        "of int|LOG_DEBUG LOG_EMERG LOG_ERR LOG_INFO LOG_KERN LOG_LOCAL0 LOG_LOCAL1",
        "of int|LOG_LOCAL2 LOG_LOCAL3 LOG_LOCAL4 LOG_LOCAL5 LOG_LOCAL6 LOG_LOCAL7 LOG_LPR",
        "of int|LOG_MAIL LOG_NDELAY LOG_NEWS LOG_NOTICE LOG_NOWAIT LOG_ODELAY LOG_PERROR",
        "of int|LOG_PID LOG_SYSLOG LOG_USER LOG_UUCP LOG_WARNING"]) ]

def memberDataTToZ : List (String × List String) :=
  [ ("tabnanny",
      ["class|NannyNag Whitespace",
        "function|check errprint format_witnesses main process_tokens",
        "hidden|Whitespace errprint filename_only format_witnesses main os sys tokenize",
        "hidden|verbose",
        "module|os sys tokenize",
        "of int|filename_only verbose",
        "of list|__all__",
        "of str|__version__"]),
    ("tarfile",
      ["builtin|bltn_open",
        "callable|open",
        "class|AbsoluteLinkError AbsolutePathError ExFileObject",
        "class|LinkOutsideDestinationError OutsideDestinationError SpecialFileError",
        "class|TarFile TarInfo",
        "exception|CompressionError EOFHeaderError EmptyHeaderError ExtractError",
        "exception|FilterError HeaderError InvalidHeaderError ReadError StreamError",
        "exception|SubsequentHeaderError TarError TruncatedHeaderError",
        "function|calc_chksums copyfileobj data_filter fully_trusted_filter is_tarfile",
        "function|itn main nti nts stn tar_filter",
        "hidden|AREGTYPE AbsoluteLinkError AbsolutePathError BLKTYPE BLOCKSIZE CHRTYPE",
        "hidden|CONTTYPE DIRTYPE EOFHeaderError EmptyHeaderError ExFileObject FIFOTYPE",
        "hidden|FilterError GNUTYPE_LONGLINK GNUTYPE_LONGNAME GNUTYPE_SPARSE GNU_MAGIC",
        "hidden|GNU_TYPES InvalidHeaderError LENGTH_LINK LENGTH_NAME LENGTH_PREFIX",
        "hidden|LNKTYPE LinkOutsideDestinationError NUL OutsideDestinationError",
        "hidden|PAX_FIELDS PAX_NAME_FIELDS PAX_NUMBER_FIELDS POSIX_MAGIC RECORDSIZE",
        "hidden|REGTYPE REGULAR_TYPES SOLARIS_XHDTYPE SUPPORTED_TYPES SYMTYPE",
        "hidden|SpecialFileError SubsequentHeaderError TruncatedHeaderError XGLTYPE",
        "hidden|XHDTYPE bltn_open calc_chksums copy copyfileobj data_filter",
        "hidden|fully_trusted_filter grp io itn main nti nts os pwd re shutil stat stn",
        "hidden|struct symlink_exception sys tar_filter time version warnings",
        "module|copy grp io os pwd re shutil stat struct sys time warnings",
        "of bytes|AREGTYPE BLKTYPE CHRTYPE CONTTYPE DIRTYPE FIFOTYPE GNUTYPE_LONGLINK",
        "of bytes|GNUTYPE_LONGNAME GNUTYPE_SPARSE GNU_MAGIC LNKTYPE NUL POSIX_MAGIC",
        "of bytes|REGTYPE SOLARIS_XHDTYPE SYMTYPE XGLTYPE XHDTYPE",
        "of dict|PAX_NUMBER_FIELDS",
        "of int|BLOCKSIZE DEFAULT_FORMAT GNU_FORMAT LENGTH_LINK LENGTH_NAME LENGTH_PREFIX",
        "of int|PAX_FORMAT RECORDSIZE USTAR_FORMAT",
        "of list|__all__",
        "of set|PAX_NAME_FIELDS",
        "of str|ENCODING __author__ __credits__ version",
        "of tuple|GNU_TYPES PAX_FIELDS REGULAR_TYPES SUPPORTED_TYPES symlink_exception"]),
    ("telnetlib",
      ["class|Telnet",
        "function|test",
        "hidden|AO AUTHENTICATION AYT BINARY BM BRK CHARSET COM_PORT_OPTION DEBUGLEVEL",
        "hidden|DET DM DO DONT EC ECHO EL ENCRYPT EOR EXOPL FORWARD_X GA IAC IP KERMIT",
        "hidden|LFLOW LINEMODE LOGOUT NAMS NAOCRD NAOFFD NAOHTD NAOHTS NAOL NAOLFD NAOP",
        "hidden|NAOVTD NAOVTS NAWS NEW_ENVIRON NOOPT NOP OLD_ENVIRON OUTMRK",
        "hidden|PRAGMA_HEARTBEAT PRAGMA_LOGON RCP RCTE RSP SB SE SEND_URL SGA SNDLOC",
        "hidden|SSPI_LOGON STATUS SUPDUP SUPDUPOUTPUT SUPPRESS_LOCAL_ECHO TELNET_PORT TLS",
        "hidden|TM TN3270E TSPEED TTYLOC TTYPE TUID VT3270REGIME WILL WONT X3PAD XASCII",
        "hidden|XAUTH XDISPLOC selectors socket sys test theNULL warnings",
        "module|selectors socket sys warnings",
        "of bytes|AO AUTHENTICATION AYT BINARY BM BRK CHARSET COM_PORT_OPTION DET DM DO",
        "of bytes|DONT EC ECHO EL ENCRYPT EOR EXOPL FORWARD_X GA IAC IP KERMIT LFLOW",
        "of bytes|LINEMODE LOGOUT NAMS NAOCRD NAOFFD NAOHTD NAOHTS NAOL NAOLFD NAOP",
        "of bytes|NAOVTD NAOVTS NAWS NEW_ENVIRON NOOPT NOP OLD_ENVIRON OUTMRK",
        "of bytes|PRAGMA_HEARTBEAT PRAGMA_LOGON RCP RCTE RSP SB SE SEND_URL SGA SNDLOC",
        "of bytes|SSPI_LOGON STATUS SUPDUP SUPDUPOUTPUT SUPPRESS_LOCAL_ECHO TLS TM",
        "of bytes|TN3270E TSPEED TTYLOC TTYPE TUID VT3270REGIME WILL WONT X3PAD XASCII",
        "of bytes|XAUTH XDISPLOC theNULL",
        "of int|DEBUGLEVEL TELNET_PORT",
        "of list|__all__"]),
    ("termios",
      ["builtin|tcdrain tcflow tcflush tcgetattr tcgetwinsize tcsendbreak tcsetattr",
        "builtin|tcsetwinsize",
        "exception|error",
        "of int|B0 B1000000 B110 B115200 B1152000 B1200 B134 B150 B1500000 B1800 B19200",
        "of int|B200 B2000000 B230400 B2400 B2500000 B300 B3000000 B3500000 B38400",
        "of int|B4000000 B460800 B4800 B50 B500000 B57600 B576000 B600 B75 B921600 B9600",
        "of int|BRKINT BS0 BS1 BSDLY CBAUD CBAUDEX CDSUSP CEOF CEOL CEOT CERASE CFLUSH",
        "of int|CIBAUD CINTR CKILL CLNEXT CLOCAL CQUIT CR0 CR1 CR2 CR3 CRDLY CREAD CRPRNT",
        "of int|CRTSCTS CS5 CS6 CS7 CS8 CSIZE CSTART CSTOP CSTOPB CSUSP CWERASE ECHO",
        "of int|ECHOCTL ECHOE ECHOK ECHOKE ECHONL ECHOPRT EXTA EXTB FF0 FF1 FFDLY",
        "of int|FIOASYNC FIOCLEX FIONBIO FIONCLEX FIONREAD FLUSHO HUPCL ICANON ICRNL",
        "of int|IEXTEN IGNBRK IGNCR IGNPAR IMAXBEL INLCR INPCK IOCSIZE_MASK IOCSIZE_SHIFT",
        "of int|ISIG ISTRIP IUCLC IXANY IXOFF IXON NCC NCCS NL0 NL1 NLDLY NOFLSH N_MOUSE",
        "of int|N_PPP N_SLIP N_STRIP N_TTY OCRNL OFDEL OFILL OLCUC ONLCR ONLRET ONOCR",
        "of int|OPOST PARENB PARMRK PARODD PENDIN TAB0 TAB1 TAB2 TAB3 TABDLY TCFLSH",
        "of int|TCGETA TCGETS TCIFLUSH TCIOFF TCIOFLUSH TCION TCOFLUSH TCOOFF TCOON",
        "of int|TCSADRAIN TCSAFLUSH TCSANOW TCSBRK TCSBRKP TCSETA TCSETAF TCSETAW TCSETS",
        "of int|TCSETSF TCSETSW TCXONC TIOCCONS TIOCEXCL TIOCGETD TIOCGICOUNT",
        "of int|TIOCGLCKTRMIOS TIOCGPGRP TIOCGSERIAL TIOCGSOFTCAR TIOCGWINSZ TIOCINQ",
        "of int|TIOCLINUX TIOCMBIC TIOCMBIS TIOCMGET TIOCMIWAIT TIOCMSET TIOCM_CAR",
        "of int|TIOCM_CD TIOCM_CTS TIOCM_DSR TIOCM_DTR TIOCM_LE TIOCM_RI TIOCM_RNG",
        "of int|TIOCM_RTS TIOCM_SR TIOCM_ST TIOCNOTTY TIOCNXCL TIOCOUTQ TIOCPKT",
        "of int|TIOCPKT_DATA TIOCPKT_DOSTOP TIOCPKT_FLUSHREAD TIOCPKT_FLUSHWRITE",
        "of int|TIOCPKT_NOSTOP TIOCPKT_START TIOCPKT_STOP TIOCSCTTY TIOCSERCONFIG",
        "of int|TIOCSERGETLSR TIOCSERGETMULTI TIOCSERGSTRUCT TIOCSERGWILD TIOCSERSETMULTI",
        "of int|TIOCSERSWILD TIOCSER_TEMT TIOCSETD TIOCSLCKTRMIOS TIOCSPGRP TIOCSSERIAL",
        "of int|TIOCSSOFTCAR TIOCSTI TIOCSWINSZ TOSTOP VDISCARD VEOF VEOL VEOL2 VERASE",
        "of int|VINTR VKILL VLNEXT VMIN VQUIT VREPRINT VSTART VSTOP VSUSP VSWTC VSWTCH",
        "of int|VT0 VT1 VTDLY VTIME VWERASE XCASE XTABS"]),
    ("timeit",
      ["builtin|default_timer",
        "class|Timer",
        "function|main reindent repeat timeit",
        "hidden|default_number default_repeat dummy_src_name gc itertools main reindent",
        "hidden|sys template time",
        "module|gc itertools sys time",
        "of int|default_number default_repeat",
        "of list|__all__",
        "of str|dummy_src_name template"]),
    ("token",
      ["function|ISEOF ISNONTERMINAL ISTERMINAL",
        "hidden|EXACT_TOKEN_TYPES",
        "of dict|EXACT_TOKEN_TYPES tok_name",
        "of int|AMPER AMPEREQUAL ASYNC AT ATEQUAL AWAIT CIRCUMFLEX CIRCUMFLEXEQUAL COLON",
        "of int|COLONEQUAL COMMA COMMENT DEDENT DOT DOUBLESLASH DOUBLESLASHEQUAL",
        "of int|DOUBLESTAR DOUBLESTAREQUAL ELLIPSIS ENCODING ENDMARKER EQEQUAL EQUAL",
        "of int|ERRORTOKEN GREATER GREATEREQUAL INDENT LBRACE LEFTSHIFT LEFTSHIFTEQUAL",
        "of int|LESS LESSEQUAL LPAR LSQB MINEQUAL MINUS NAME NEWLINE NL NOTEQUAL",
        "of int|NT_OFFSET NUMBER N_TOKENS OP PERCENT PERCENTEQUAL PLUS PLUSEQUAL RARROW",
        "of int|RBRACE RIGHTSHIFT RIGHTSHIFTEQUAL RPAR RSQB SEMI SLASH SLASHEQUAL",
        "of int|SOFT_KEYWORD STAR STAREQUAL STRING TILDE TYPE_COMMENT TYPE_IGNORE VBAR",
        "of int|VBAREQUAL",
        "of list|__all__"]),
    ("tokenize",
      ["builtin|lookup",
        "class|TextIOWrapper=_io:TextIOWrapper TokenInfo Untokenizer",
        "exception|StopTokenizing TokenError",
        "function|ISEOF ISNONTERMINAL ISTERMINAL any detect_encoding generate_tokens",
        "function|group main maybe open tokenize untokenize",
        "hidden|BOM_UTF8 Binnumber Comment ContStr Decnumber Double Double3",
        "hidden|EXACT_TOKEN_TYPES Expfloat Exponent Floatnumber Funny Hexnumber Ignore",
        "hidden|Imagnumber Intnumber Name Number Octnumber PlainToken Pointfloat",
        "hidden|PseudoExtras PseudoToken Single Single3 Special StopTokenizing String",
        "hidden|StringPrefix TextIOWrapper Token TokenError Triple Untokenizer Whitespace",
        "hidden|any blank_re collections cookie_re endpats functools group lookup main",
        "hidden|maybe open re single_quoted sys tabsize triple_quoted",
        "module|collections functools re sys",
        "of bytes|BOM_UTF8",
        "of dict|EXACT_TOKEN_TYPES endpats tok_name",
        "of int|AMPER AMPEREQUAL ASYNC AT ATEQUAL AWAIT CIRCUMFLEX CIRCUMFLEXEQUAL COLON",
        "of int|COLONEQUAL COMMA COMMENT DEDENT DOT DOUBLESLASH DOUBLESLASHEQUAL",
        "of int|DOUBLESTAR DOUBLESTAREQUAL ELLIPSIS ENCODING ENDMARKER EQEQUAL EQUAL",
        "of int|ERRORTOKEN GREATER GREATEREQUAL INDENT LBRACE LEFTSHIFT LEFTSHIFTEQUAL",
        "of int|LESS LESSEQUAL LPAR LSQB MINEQUAL MINUS NAME NEWLINE NL NOTEQUAL",
        "of int|NT_OFFSET NUMBER N_TOKENS OP PERCENT PERCENTEQUAL PLUS PLUSEQUAL RARROW",
        "of int|RBRACE RIGHTSHIFT RIGHTSHIFTEQUAL RPAR RSQB SEMI SLASH SLASHEQUAL",
        "of int|SOFT_KEYWORD STAR STAREQUAL STRING TILDE TYPE_COMMENT TYPE_IGNORE VBAR",
        "of int|VBAREQUAL tabsize",
        "of list|__all__",
        "of re.Pattern|blank_re cookie_re",
        "of set|single_quoted triple_quoted",
        "of str|Binnumber Comment ContStr Decnumber Double Double3 Expfloat Exponent",
        "of str|Floatnumber Funny Hexnumber Ignore Imagnumber Intnumber Name Number",
        "of str|Octnumber PlainToken Pointfloat PseudoExtras PseudoToken Single Single3",
        "of str|Special String StringPrefix Token Triple Whitespace __author__",
        "of str|__credits__"]),
    ("tomllib",
      ["exception|TOMLDecodeError",
        "function|load loads",
        "of tuple|__all__"]),
    ("trace",
      ["class|CoverageResults Trace",
        "function|main",
        "hidden|PRAGMA_NOCOVER dis gc inspect io linecache main os pickle sys sysconfig",
        "hidden|threading token tokenize",
        "module|dis gc inspect io linecache os pickle sys sysconfig threading token",
        "module|tokenize",
        "of list|__all__",
        "of str|PRAGMA_NOCOVER"]),
    ("tracemalloc",
      ["builtin|clear_traces get_traceback_limit get_traced_memory",
        "builtin|get_tracemalloc_memory is_tracing reset_peak start stop",
        "class|BaseFilter DomainFilter Filter Frame Iterable=collections.abc:Iterable",
        "class|Sequence=collections.abc:Sequence Snapshot Statistic StatisticDiff Trace",
        "class|Traceback",
        "function|get_object_traceback take_snapshot total_ordering",
        "module|fnmatch linecache os pickle"]),
    ("tty",
      ["builtin|tcdrain tcflow tcflush tcgetattr tcgetwinsize tcsendbreak tcsetattr",
        "builtin|tcsetwinsize",
        "exception|error=termios:error",
        "function|setcbreak setraw",
        "hidden|B0 B1000000 B110 B115200 B1152000 B1200 B134 B150 B1500000 B1800 B19200",
        "hidden|B200 B2000000 B230400 B2400 B2500000 B300 B3000000 B3500000 B38400",
        "hidden|B4000000 B460800 B4800 B50 B500000 B57600 B576000 B600 B75 B921600 B9600",
        "hidden|BRKINT BS0 BS1 BSDLY CBAUD CBAUDEX CC CDSUSP CEOF CEOL CEOT CERASE CFLAG",
        "hidden|CFLUSH CIBAUD CINTR CKILL CLNEXT CLOCAL CQUIT CR0 CR1 CR2 CR3 CRDLY CREAD",
        "hidden|CRPRNT CRTSCTS CS5 CS6 CS7 CS8 CSIZE CSTART CSTOP CSTOPB CSUSP CWERASE",
        "hidden|ECHO ECHOCTL ECHOE ECHOK ECHOKE ECHONL ECHOPRT EXTA EXTB FF0 FF1 FFDLY",
        "hidden|FIOASYNC FIOCLEX FIONBIO FIONCLEX FIONREAD FLUSHO HUPCL ICANON ICRNL",
        "hidden|IEXTEN IFLAG IGNBRK IGNCR IGNPAR IMAXBEL INLCR INPCK IOCSIZE_MASK",
        "hidden|IOCSIZE_SHIFT ISIG ISPEED ISTRIP IUCLC IXANY IXOFF IXON LFLAG NCC NCCS",
        "hidden|NL0 NL1 NLDLY NOFLSH N_MOUSE N_PPP N_SLIP N_STRIP N_TTY OCRNL OFDEL OFILL",
        "hidden|OFLAG OLCUC ONLCR ONLRET ONOCR OPOST OSPEED PARENB PARMRK PARODD PENDIN",
        "hidden|TAB0 TAB1 TAB2 TAB3 TABDLY TCFLSH TCGETA TCGETS TCIFLUSH TCIOFF TCIOFLUSH",
        "hidden|TCION TCOFLUSH TCOOFF TCOON TCSADRAIN TCSAFLUSH TCSANOW TCSBRK TCSBRKP",
        "hidden|TCSETA TCSETAF TCSETAW TCSETS TCSETSF TCSETSW TCXONC TIOCCONS TIOCEXCL",
        "hidden|TIOCGETD TIOCGICOUNT TIOCGLCKTRMIOS TIOCGPGRP TIOCGSERIAL TIOCGSOFTCAR",
        "hidden|TIOCGWINSZ TIOCINQ TIOCLINUX TIOCMBIC TIOCMBIS TIOCMGET TIOCMIWAIT",
        "hidden|TIOCMSET TIOCM_CAR TIOCM_CD TIOCM_CTS TIOCM_DSR TIOCM_DTR TIOCM_LE",
        "hidden|TIOCM_RI TIOCM_RNG TIOCM_RTS TIOCM_SR TIOCM_ST TIOCNOTTY TIOCNXCL",
        "hidden|TIOCOUTQ TIOCPKT TIOCPKT_DATA TIOCPKT_DOSTOP TIOCPKT_FLUSHREAD",
        "hidden|TIOCPKT_FLUSHWRITE TIOCPKT_NOSTOP TIOCPKT_START TIOCPKT_STOP TIOCSCTTY",
        "hidden|TIOCSERCONFIG TIOCSERGETLSR TIOCSERGETMULTI TIOCSERGSTRUCT TIOCSERGWILD",
        "hidden|TIOCSERSETMULTI TIOCSERSWILD TIOCSER_TEMT TIOCSETD TIOCSLCKTRMIOS",
        "hidden|TIOCSPGRP TIOCSSERIAL TIOCSSOFTCAR TIOCSTI TIOCSWINSZ TOSTOP VDISCARD",
        "hidden|VEOF VEOL VEOL2 VERASE VINTR VKILL VLNEXT VMIN VQUIT VREPRINT VSTART",
        "hidden|VSTOP VSUSP VSWTC VSWTCH VT0 VT1 VTDLY VTIME VWERASE XCASE XTABS error",
        "hidden|tcdrain tcflow tcflush tcgetattr tcgetwinsize tcsendbreak tcsetattr",
        "hidden|tcsetwinsize",
        "of int|B0 B1000000 B110 B115200 B1152000 B1200 B134 B150 B1500000 B1800 B19200",
        "of int|B200 B2000000 B230400 B2400 B2500000 B300 B3000000 B3500000 B38400",
        "of int|B4000000 B460800 B4800 B50 B500000 B57600 B576000 B600 B75 B921600 B9600",
        "of int|BRKINT BS0 BS1 BSDLY CBAUD CBAUDEX CC CDSUSP CEOF CEOL CEOT CERASE CFLAG",
        "of int|CFLUSH CIBAUD CINTR CKILL CLNEXT CLOCAL CQUIT CR0 CR1 CR2 CR3 CRDLY CREAD",
        "of int|CRPRNT CRTSCTS CS5 CS6 CS7 CS8 CSIZE CSTART CSTOP CSTOPB CSUSP CWERASE",
        "of int|ECHO ECHOCTL ECHOE ECHOK ECHOKE ECHONL ECHOPRT EXTA EXTB FF0 FF1 FFDLY",
        "of int|FIOASYNC FIOCLEX FIONBIO FIONCLEX FIONREAD FLUSHO HUPCL ICANON ICRNL",
        "of int|IEXTEN IFLAG IGNBRK IGNCR IGNPAR IMAXBEL INLCR INPCK IOCSIZE_MASK",
        "of int|IOCSIZE_SHIFT ISIG ISPEED ISTRIP IUCLC IXANY IXOFF IXON LFLAG NCC NCCS",
        "of int|NL0 NL1 NLDLY NOFLSH N_MOUSE N_PPP N_SLIP N_STRIP N_TTY OCRNL OFDEL OFILL",
        "of int|OFLAG OLCUC ONLCR ONLRET ONOCR OPOST OSPEED PARENB PARMRK PARODD PENDIN",
        "of int|TAB0 TAB1 TAB2 TAB3 TABDLY TCFLSH TCGETA TCGETS TCIFLUSH TCIOFF TCIOFLUSH",
        "of int|TCION TCOFLUSH TCOOFF TCOON TCSADRAIN TCSAFLUSH TCSANOW TCSBRK TCSBRKP",
        "of int|TCSETA TCSETAF TCSETAW TCSETS TCSETSF TCSETSW TCXONC TIOCCONS TIOCEXCL",
        "of int|TIOCGETD TIOCGICOUNT TIOCGLCKTRMIOS TIOCGPGRP TIOCGSERIAL TIOCGSOFTCAR",
        "of int|TIOCGWINSZ TIOCINQ TIOCLINUX TIOCMBIC TIOCMBIS TIOCMGET TIOCMIWAIT",
        "of int|TIOCMSET TIOCM_CAR TIOCM_CD TIOCM_CTS TIOCM_DSR TIOCM_DTR TIOCM_LE",
        "of int|TIOCM_RI TIOCM_RNG TIOCM_RTS TIOCM_SR TIOCM_ST TIOCNOTTY TIOCNXCL",
        "of int|TIOCOUTQ TIOCPKT TIOCPKT_DATA TIOCPKT_DOSTOP TIOCPKT_FLUSHREAD",
        "of int|TIOCPKT_FLUSHWRITE TIOCPKT_NOSTOP TIOCPKT_START TIOCPKT_STOP TIOCSCTTY",
        "of int|TIOCSERCONFIG TIOCSERGETLSR TIOCSERGETMULTI TIOCSERGSTRUCT TIOCSERGWILD",
        "of int|TIOCSERSETMULTI TIOCSERSWILD TIOCSER_TEMT TIOCSETD TIOCSLCKTRMIOS",
        "of int|TIOCSPGRP TIOCSSERIAL TIOCSSOFTCAR TIOCSTI TIOCSWINSZ TOSTOP VDISCARD",
        "of int|VEOF VEOL VEOL2 VERASE VINTR VKILL VLNEXT VMIN VQUIT VREPRINT VSTART",
        "of int|VSTOP VSUSP VSWTC VSWTCH VT0 VT1 VTDLY VTIME VWERASE XCASE XTABS",
        "of list|__all__"]),
    ("unicodedata",
      ["builtin|bidirectional category combining decimal decomposition digit",
        "builtin|east_asian_width is_normalized lookup mirrored name normalize numeric",
        "class|UCD",
        "of str|unidata_version",
        "of unicodedata.UCD|ucd_3_2_0"]),
    ("unittest",
      ["class|BaseTestSuite=unittest.suite:BaseTestSuite",
        "class|FunctionTestCase=unittest.case:FunctionTestCase",
        "class|IsolatedAsyncioTestCase=unittest.async_case:IsolatedAsyncioTestCase",
        "class|TestCase=unittest.case:TestCase TestLoader=unittest.loader:TestLoader",
        "class|TestProgram=unittest.main:TestProgram",
        "class|TestResult=unittest.result:TestResult TestSuite=unittest.suite:TestSuite",
        "class|TextTestResult=unittest.runner:TextTestResult",
        "class|TextTestRunner=unittest.runner:TextTestRunner",
        "class|main=unittest.main:TestProgram",
        "exception|SkipTest=unittest.case:SkipTest",
        "function|__dir__ __getattr__ addModuleCleanup doModuleCleanups",
        "function|enterModuleContext expectedFailure findTestCases getTestCaseNames",
        "function|installHandler load_tests makeSuite registerResult removeHandler",
        "function|removeResult skip skipIf skipUnless",
        "hidden|BaseTestSuite TestProgram case load_tests loader result runner signals",
        "hidden|suite util",
        "module|case=unittest.case loader=unittest.loader result=unittest.result",
        "module|runner=unittest.runner signals=unittest.signals suite=unittest.suite",
        "module|util=unittest.util",
        "of TestLoader|defaultTestLoader",
        "of bool|__unittest",
        "of list|__all__"]),
    ("unittest.async_case",
      ["class|IsolatedAsyncioTestCase TestCase=unittest.case:TestCase",
        "module|asyncio contextvars inspect warnings"]),
    ("unittest.case",
      ["class|FunctionTestCase TestCase",
        "exception|SkipTest",
        "function|addModuleCleanup doModuleCleanups enterModuleContext expectedFailure",
        "function|safe_repr skip skipIf skipUnless strclass",
        "module|collections contextlib difflib functools pprint re result=unittest.result",
        "module|sys traceback types warnings",
        "of bool|__unittest",
        "of str|DIFF_OMITTED"]),
    ("unittest.loader",
      ["class|TestLoader",
        "function|findTestCases fnmatch fnmatchcase getTestCaseNames makeSuite",
        "module|case=unittest.case functools os re suite=unittest.suite sys traceback",
        "module|types util=unittest.util warnings",
        "of TestLoader|defaultTestLoader",
        "of bool|__unittest",
        "of re.Pattern|VALID_MODULE_NAME"]),
    ("unittest.main",
      ["class|TestProgram main=unittest.main:TestProgram",
        "function|installHandler",
        "module|argparse loader=unittest.loader os runner=unittest.runner sys warnings",
        "of bool|__unittest",
        "of str|MAIN_EXAMPLES MODULE_EXAMPLES"]),
    ("unittest.mock",
      ["callable|call",
        "class|AsyncMagicMixin AsyncMock AsyncMockMixin Base CallableMixin",
        "class|CodeType=builtins:code MagicMixin MagicMock MagicProxy",
        "class|MethodType=builtins:method Mock ModuleType=builtins:module",
        "class|NonCallableMagicMock NonCallableMock PropertyMock",
        "class|partial=functools:partial",
        "exception|InvalidSpecError",
        "function|RLock create_autospec iscoroutinefunction mock_open patch safe_repr",
        "function|seal wraps",
        "hidden|AsyncMagicMixin AsyncMockMixin Base CallableMixin CodeType FunctionTypes",
        "hidden|InvalidSpecError MagicMixin MagicProxy MethodType ModuleType RLock",
        "hidden|asyncio builtins contextlib file_spec inplace inspect io",
        "hidden|iscoroutinefunction magic_methods numerics open_spec partial pkgutil",
        "hidden|pprint right safe_repr sys wraps",
        "module|asyncio builtins contextlib inspect io pkgutil pprint sys",
        "of NoneType|file_spec open_spec",
        "of _ANY|ANY",
        "of _Sentinel|sentinel",
        "of _SentinelObject|DEFAULT",
        "of bool|FILTER_DIR",
        "of str|inplace magic_methods numerics right",
        "of tuple|FunctionTypes __all__"]),
    ("unittest.result",
      ["class|TestResult",
        "function|failfast wraps",
        "module|io sys traceback util=unittest.util",
        "of bool|__unittest",
        "of str|STDERR_LINE STDOUT_LINE"]),
    ("unittest.runner",
      ["class|TextTestResult TextTestRunner",
        "function|registerResult",
        "module|result=unittest.result sys time warnings",
        "of bool|__unittest"]),
    ("unittest.signals",
      ["function|installHandler registerResult removeHandler removeResult wraps",
        "module|signal weakref",
        "of bool|__unittest"]),
    ("unittest.suite",
      ["class|BaseTestSuite TestSuite",
        "module|case=unittest.case sys util=unittest.util",
        "of bool|__unittest"]),
    ("unittest.util",
      ["class|Counter=collections:Counter",
        "function|commonprefix namedtuple safe_repr sorted_list_difference strclass",
        "function|three_way_cmp unorderable_list_difference",
        "of bool|__unittest"]),
    ("urllib",
      ["module|parse=urllib.parse"]),
    ("urllib.error",
      ["class|ContentTooShortError HTTPError URLError",
        "hidden|io urllib",
        "module|io urllib",
        "of list|__all__"]),
    ("urllib.parse",
      ["callable|urlsplit",
        "class|DefragResult DefragResultBytes ParseResult ParseResultBytes",
        "class|ResultBase=urllib.parse:_NetlocResultMixinStr SplitResult SplitResultBytes",
        "function|__getattr__ clear_cache namedtuple parse_qs parse_qsl quote",
        "function|quote_from_bytes quote_plus splitattr splithost splitnport splitpasswd",
        "function|splitport splitquery splittag splittype splituser splitvalue to_bytes",
        "function|unquote unquote_plus unquote_to_bytes unwrap urldefrag urlencode",
        "function|urljoin urlparse urlunparse urlunsplit",
        "hidden|ResultBase clear_cache functools ipaddress namedtuple non_hierarchical re",
        "hidden|scheme_chars splitattr splithost splitnport splitpasswd splitport",
        "hidden|splitquery splittag splittype splituser splitvalue sys to_bytes types",
        "hidden|unwrap uses_fragment uses_netloc uses_params uses_query uses_relative",
        "hidden|warnings",
        "module|functools ipaddress re sys types warnings",
        "of list|__all__ non_hierarchical uses_fragment uses_netloc uses_params",
        "of list|uses_query uses_relative",
        "of str|scheme_chars"]),
    ("urllib.request",
      ["callable|urlsplit",
        "class|AbstractBasicAuthHandler AbstractDigestAuthHandler AbstractHTTPHandler",
        "class|BaseHandler CacheFTPHandler",
        "class|ContentTooShortError=urllib.error:ContentTooShortError DataHandler",
        "class|FTPHandler FancyURLopener FileHandler HTTPBasicAuthHandler",
        "class|HTTPCookieProcessor HTTPDefaultErrorHandler HTTPDigestAuthHandler",
        "class|HTTPError=urllib.error:HTTPError HTTPErrorProcessor HTTPHandler",
        "class|HTTPPasswordMgr HTTPPasswordMgrWithDefaultRealm",
        "class|HTTPPasswordMgrWithPriorAuth HTTPRedirectHandler HTTPSHandler",
        "class|OpenerDirector ProxyBasicAuthHandler ProxyDigestAuthHandler ProxyHandler",
        "class|Request URLError=urllib.error:URLError URLopener UnknownHandler",
        "class|addclosehook=urllib.response:addclosehook",
        "class|addinfourl=urllib.response:addinfourl ftpwrapper",
        "function|build_opener ftperrors getproxies getproxies_environment install_opener",
        "function|localhost noheaders parse_http_list parse_keqv_list pathname2url",
        "function|proxy_bypass proxy_bypass_environment quote request_host thishost",
        "function|unquote unquote_to_bytes unwrap url2pathname urlcleanup urljoin urlopen",
        "function|urlparse urlretrieve urlunparse",
        "hidden|AbstractHTTPHandler ContentTooShortError HTTPError MAXFTPCACHE URLError",
        "hidden|addclosehook addinfourl base64 bisect contextlib email ftpcache ftperrors",
        "hidden|ftpwrapper getproxies_environment hashlib http io localhost noheaders os",
        "hidden|parse_http_list parse_keqv_list posixpath proxy_bypass",
        "hidden|proxy_bypass_environment quote re request_host socket ssl string sys",
        "hidden|tempfile thishost time unquote unquote_to_bytes unwrap urljoin urlparse",
        "hidden|urlsplit urlunparse warnings",
        "module|base64 bisect contextlib email hashlib http io os posixpath re socket ssl",
        "module|string sys tempfile time warnings",
        "of dict|ftpcache",
        "of int|MAXFTPCACHE",
        "of list|__all__",
        "of str|__version__"]),
    ("urllib.response",
      ["class|addbase addclosehook addinfo addinfourl",
        "hidden|tempfile",
        "module|tempfile",
        "of list|__all__"]),
    ("urllib.robotparser",
      ["class|Entry RequestRate RobotFileParser RuleLine",
        "hidden|Entry RequestRate RuleLine collections urllib",
        "module|collections urllib",
        "of list|__all__"]),
    ("uu",
      ["exception|Error",
        "function|decode encode test",
        "hidden|binascii os sys test warnings",
        "module|binascii os sys warnings",
        "of list|__all__"]),
    ("venv",
      ["class|EnvBuilder",
        "function|create main",
        "module|logging os shutil subprocess sys sysconfig types",
        "of Logger|logger",
        "of tuple|CORE_VENV_DEPS"]),
    ("wave",
      ["class|Wave_read Wave_write",
        "exception|Error",
        "function|namedtuple open",
        "hidden|WAVE_FORMAT_PCM builtins namedtuple struct sys",
        "module|builtins struct sys",
        "of int|WAVE_FORMAT_PCM",
        "of list|__all__"]),
    ("weakref",
      ["builtin|getweakrefcount getweakrefs proxy",
        "class|CallableProxyType KeyedRef ProxyType ReferenceType WeakKeyDictionary",
        "class|WeakMethod WeakSet=_weakrefset:WeakSet WeakValueDictionary finalize",
        "class|ref=weakref:ReferenceType",
        "hidden|KeyedRef itertools sys",
        "module|itertools sys",
        "of list|__all__",
        "of tuple|ProxyTypes"]),
    ("webbrowser",
      ["class|BackgroundBrowser BaseBrowser Chrome Chromium=webbrowser:Chrome Elinks",
        "class|Galeon GenericBrowser Grail Konqueror Mozilla Netscape Opera UnixBrowser",
        "exception|Error",
        "function|get main open open_new open_new_tab register register_X_browsers",
        "function|register_standard_browsers",
        "hidden|BackgroundBrowser BaseBrowser Chrome Chromium Elinks Galeon",
        "hidden|GenericBrowser Grail Konqueror Mozilla Netscape Opera UnixBrowser main os",
        "hidden|register_X_browsers register_standard_browsers shlex shutil subprocess",
        "hidden|sys threading warnings",
        "module|os shlex shutil subprocess sys threading warnings",
        "of list|__all__"]),
    ("wsgiref", []),
    ("wsgiref.handlers",
      ["class|BaseCGIHandler BaseHandler CGIHandler FileWrapper=wsgiref.util:FileWrapper",
        "class|Headers=wsgiref.headers:Headers IISCGIHandler SimpleHandler",
        "function|format_date_time guess_scheme is_hop_by_hop read_environ",
        "hidden|FileWrapper Headers format_date_time guess_scheme is_hop_by_hop os sys",
        "hidden|time",
        "module|os sys time",
        "of list|__all__"]),
    ("wsgiref.headers",
      ["class|Headers",
        "module|re",
        "of re.Pattern|tspecials"]),
    ("wsgiref.simple_server",
      ["class|BaseHTTPRequestHandler=http.server:BaseHTTPRequestHandler",
        "class|HTTPServer=http.server:HTTPServer ServerHandler",
        "class|SimpleHandler=wsgiref.handlers:SimpleHandler WSGIRequestHandler WSGIServer",
        "function|demo_app make_server python_implementation",
        "hidden|BaseHTTPRequestHandler HTTPServer ServerHandler SimpleHandler",
        "hidden|python_implementation server_version software_version sys sys_version",
        "hidden|urllib",
        "module|sys urllib",
        "of list|__all__",
        "of str|__version__ server_version software_version sys_version"]),
    ("wsgiref.types",
      ["callable|WSGIApplication WSGIEnvironment",
        "class|Any=typing:Any Callable=collections.abc:Callable ErrorStream FileWrapper",
        "class|InputStream Iterable=collections.abc:Iterable",
        "class|Iterator=collections.abc:Iterator Protocol=typing:Protocol StartResponse",
        "class|TracebackType=builtins:traceback",
        "form|TypeAlias",
        "hidden|Any Callable Iterable Iterator Protocol TracebackType TypeAlias",
        "of dict|__annotations__",
        "of list|__all__"]),
    ("wsgiref.util",
      ["class|FileWrapper",
        "function|application_uri guess_scheme is_hop_by_hop request_uri",
        "function|setup_testing_defaults shift_path_info",
        "hidden|is_hop_by_hop posixpath",
        "module|posixpath",
        "of list|__all__"]),
    ("wsgiref.validate",
      ["class|ErrorWrapper InputWrapper IteratorWrapper PartialIteratorWrapper",
        "class|WriteWrapper",
        "exception|WSGIWarning",
        "function|assert_ check_content_type check_environ check_errors check_exc_info",
        "function|check_headers check_input check_iterator check_status check_string_type",
        "function|validator",
        "hidden|ErrorWrapper InputWrapper IteratorWrapper PartialIteratorWrapper",
        "hidden|WSGIWarning WriteWrapper assert_ bad_header_value_re check_content_type",
        "hidden|check_environ check_errors check_exc_info check_headers check_input",
        "hidden|check_iterator check_status check_string_type header_re re sys warnings",
        "module|re sys warnings",
        "of list|__all__",
        "of re.Pattern|bad_header_value_re header_re"]),
    ("xdrlib",
      ["class|BytesIO=_io:BytesIO Packer Unpacker",
        "exception|ConversionError Error",
        "function|raise_conversion_error wraps",
        "hidden|BytesIO raise_conversion_error struct warnings wraps",
        "module|struct warnings",
        "of list|__all__"]),
    ("xml",
      ["module|etree=xml.etree parsers=xml.parsers",
        "of list|__all__"]),
    ("xml.dom",
      ["class|DOMException Node UserDataHandler",
        "exception|DomstringSizeErr HierarchyRequestErr IndexSizeErr InuseAttributeErr",
        "exception|InvalidAccessErr InvalidCharacterErr InvalidModificationErr",
        "exception|InvalidStateErr NamespaceErr NoDataAllowedErr NoModificationAllowedErr",
        "exception|NotFoundErr NotSupportedErr SyntaxErr ValidationErr WrongDocumentErr",
        "function|getDOMImplementation registerDOMImplementation",
        "module|domreg=xml.dom.domreg",
        "of NoneType|EMPTY_NAMESPACE EMPTY_PREFIX",
        "of int|DOMSTRING_SIZE_ERR HIERARCHY_REQUEST_ERR INDEX_SIZE_ERR",
        "of int|INUSE_ATTRIBUTE_ERR INVALID_ACCESS_ERR INVALID_CHARACTER_ERR",
        "of int|INVALID_MODIFICATION_ERR INVALID_STATE_ERR NAMESPACE_ERR NOT_FOUND_ERR",
        "of int|NOT_SUPPORTED_ERR NO_DATA_ALLOWED_ERR NO_MODIFICATION_ALLOWED_ERR",
        "of int|SYNTAX_ERR VALIDATION_ERR WRONG_DOCUMENT_ERR",
        "of str|XHTML_NAMESPACE XMLNS_NAMESPACE XML_NAMESPACE"]),
    ("xml.dom.NodeFilter",
      ["class|NodeFilter"]),
    ("xml.dom.domreg",
      ["function|getDOMImplementation registerDOMImplementation",
        "module|sys",
        "of dict|registered well_known_implementations"]),
    ("xml.dom.expatbuilder",
      ["class|ElementInfo ExpatBuilder ExpatBuilderNS FilterCrutch",
        "class|FilterVisibilityController FragmentBuilder FragmentBuilderNS",
        "class|InternalSubsetExtractor Namespaces Node=xml.dom:Node",
        "class|NodeFilter=xml.dom.NodeFilter:NodeFilter Rejecter Skipper",
        "exception|ParseEscape",
        "function|makeBuilder parse parseFragment parseFragmentString parseString",
        "module|expat=xml.parsers.expat minidom=xml.dom.minidom",
        "module|xmlbuilder=xml.dom.xmlbuilder",
        "of DOMImplementation|theDOMImplementation",
        "of NoneType|EMPTY_NAMESPACE EMPTY_PREFIX",
        "of int|CDATA_SECTION_NODE DOCUMENT_NODE FILTER_ACCEPT FILTER_INTERRUPT",
        "of int|FILTER_REJECT FILTER_SKIP TEXT_NODE",
        "of str|XMLNS_NAMESPACE"]),
    ("xml.dom.minicompat",
      ["class|EmptyNodeList NodeList",
        "function|defproperty",
        "hidden|xml",
        "module|xml",
        "of list|__all__",
        "of tuple|StringTypes"]),
    ("xml.dom.minidom",
      ["class|Attr AttributeList=xml.dom.minidom:NamedNodeMap CDATASection CharacterData",
        "class|Childless Comment DOMImplementation",
        "class|DOMImplementationLS=xml.dom.xmlbuilder:DOMImplementationLS Document",
        "class|DocumentFragment DocumentLS=xml.dom.xmlbuilder:DocumentLS DocumentType",
        "class|Element ElementInfo EmptyNodeList=xml.dom.minicompat:EmptyNodeList Entity",
        "class|Identified NamedNodeMap Node NodeList=xml.dom.minicompat:NodeList Notation",
        "class|ProcessingInstruction ReadOnlySequentialNamedNodeMap Text TypeInfo",
        "function|defproperty getDOMImplementation parse parseString",
        "module|domreg=xml.dom.domreg io xml",
        "of NoneType|EMPTY_NAMESPACE EMPTY_PREFIX",
        "of str|XMLNS_NAMESPACE",
        "of tuple|StringTypes"]),
    ("xml.dom.pulldom",
      ["class|DOMEventStream ErrorHandler PullDOM SAX2DOM",
        "function|parse parseString",
        "module|xml",
        "of int|default_bufsize",
        "of str|CHARACTERS COMMENT END_DOCUMENT END_ELEMENT IGNORABLE_WHITESPACE",
        "of str|PROCESSING_INSTRUCTION START_DOCUMENT START_ELEMENT"]),
    ("xml.dom.xmlbuilder",
      ["class|DOMBuilder DOMBuilderFilter DOMEntityResolver DOMImplementationLS",
        "class|DOMInputSource DocumentLS Options",
        "hidden|DOMBuilderFilter DOMImplementationLS DocumentLS Options copy xml",
        "module|copy xml",
        "of list|__all__"]),
    ("xml.etree",
      ["module|ElementPath=xml.etree.ElementPath"]),
    ("xml.etree.ElementInclude",
      ["exception|FatalIncludeError LimitedRecursiveIncludeError",
        "function|default_loader include urljoin",
        "module|ElementTree=xml.etree.ElementTree copy",
        "of int|DEFAULT_MAX_INCLUSION_DEPTH",
        "of str|XINCLUDE XINCLUDE_FALLBACK XINCLUDE_INCLUDE"]),
    ("xml.etree.ElementPath",
      ["function|find findall findtext get_parent_map iterfind prepare_child",
        "function|prepare_descendant prepare_parent prepare_predicate prepare_self",
        "function|prepare_star xpath_tokenizer",
        "module|re",
        "of dict|ops",
        "of re.Pattern|xpath_tokenizer_re"]),
    ("xml.etree.ElementTree",
      ["builtin|SubElement",
        "class|C14NWriterTarget Element ElementTree QName TreeBuilder XMLParser",
        "class|XMLPullParser",
        "exception|ParseError",
        "function|Comment PI ProcessingInstruction XML XMLID canonicalize dump fromstring",
        "function|fromstringlist indent iselement iterparse parse register_namespace",
        "function|tostring tostringlist",
        "hidden|ElementPath HTML_EMPTY collections contextlib io re sys warnings weakref",
        "module|ElementPath=xml.etree.ElementPath collections contextlib io re sys",
        "module|warnings weakref",
        "of list|__all__",
        "of set|HTML_EMPTY",
        "of str|VERSION"]),
    ("xml.etree.cElementTree",
      ["builtin|SubElement",
        "class|C14NWriterTarget=xml.etree.ElementTree:C14NWriterTarget",
        "class|Element=xml.etree.ElementTree:Element",
        "class|ElementTree=xml.etree.ElementTree:ElementTree",
        "class|QName=xml.etree.ElementTree:QName",
        "class|TreeBuilder=xml.etree.ElementTree:TreeBuilder",
        "class|XMLParser=xml.etree.ElementTree:XMLParser",
        "class|XMLPullParser=xml.etree.ElementTree:XMLPullParser",
        "exception|ParseError=xml.etree.ElementTree:ParseError",
        "function|Comment PI ProcessingInstruction XML XMLID canonicalize dump fromstring",
        "function|fromstringlist indent iselement iterparse parse register_namespace",
        "function|tostring tostringlist",
        "of str|VERSION"]),
    ("xml.parsers",
      ["module|expat=xml.parsers.expat"]),
    ("xml.parsers.expat",
      ["builtin|ErrorString ParserCreate",
        "class|XMLParserType=pyexpat:xmlparser",
        "exception|ExpatError error=xml.parsers.expat:ExpatError",
        "module|errors=pyexpat.errors model=pyexpat.model sys",
        "of PyCapsule|expat_CAPI",
        "of int|XML_PARAM_ENTITY_PARSING_ALWAYS XML_PARAM_ENTITY_PARSING_NEVER",
        "of int|XML_PARAM_ENTITY_PARSING_UNLESS_STANDALONE",
        "of list|features",
        "of str|EXPAT_VERSION native_encoding",
        "of tuple|version_info"]),
    ("xml.sax",
      ["class|ContentHandler=xml.sax.handler:ContentHandler",
        "class|ErrorHandler=xml.sax.handler:ErrorHandler",
        "class|InputSource=xml.sax.xmlreader:InputSource",
        "class|SAXParseException=xml.sax._exceptions:SAXParseException",
        "exception|SAXException=xml.sax._exceptions:SAXException",
        "exception|SAXNotRecognizedException=xml.sax._exceptions:SAXNotRecognizedException",
        "exception|SAXNotSupportedException=xml.sax._exceptions:SAXNotSupportedException",
        "exception|SAXReaderNotAvailable=xml.sax._exceptions:SAXReaderNotAvailable",
        "function|make_parser parse parseString",
        "module|handler=xml.sax.handler xmlreader=xml.sax.xmlreader",
        "of list|default_parser_list"]),
    ("xml.sax.expatreader",
      ["class|AttributesImpl=xml.sax.xmlreader:AttributesImpl",
        "class|AttributesNSImpl=xml.sax.xmlreader:AttributesNSImpl ExpatLocator",
        "class|ExpatParser SAXParseException=xml.sax._exceptions:SAXParseException",
        "exception|SAXException=xml.sax._exceptions:SAXException",
        "exception|SAXNotRecognizedException=xml.sax._exceptions:SAXNotRecognizedException",
        "exception|SAXNotSupportedException=xml.sax._exceptions:SAXNotSupportedException",
        "exception|SAXReaderNotAvailable=xml.sax._exceptions:SAXReaderNotAvailable",
        "function|create_parser",
        "module|expat=xml.parsers.expat handler=xml.sax.handler saxutils=xml.sax.saxutils",
        "module|xmlreader=xml.sax.xmlreader",
        "of str|feature_external_ges feature_external_pes feature_namespace_prefixes",
        "of str|feature_namespaces feature_string_interning feature_validation",
        "of str|property_interning_dict property_xml_string version"]),
    ("xml.sax.handler",
      ["class|ContentHandler DTDHandler EntityResolver ErrorHandler LexicalHandler",
        "of list|all_features all_properties",
        "of str|feature_external_ges feature_external_pes feature_namespace_prefixes",
        "of str|feature_namespaces feature_string_interning feature_validation",
        "of str|property_declaration_handler property_dom_node property_encoding",
        "of str|property_interning_dict property_lexical_handler property_xml_string",
        "of str|version"]),
    ("xml.sax.saxutils",
      ["class|XMLFilterBase XMLGenerator",
        "function|__dict_replace escape prepare_input_source quoteattr unescape",
        "module|codecs handler=xml.sax.handler io os urllib xmlreader=xml.sax.xmlreader"]),
    ("xml.sax.xmlreader",
      ["class|AttributesImpl AttributesNSImpl IncrementalParser InputSource Locator",
        "class|XMLReader",
        "exception|SAXNotRecognizedException=xml.sax._exceptions:SAXNotRecognizedException",
        "exception|SAXNotSupportedException=xml.sax._exceptions:SAXNotSupportedException",
        "module|handler=xml.sax.handler"]),
    ("xmlrpc", []),
    ("xmlrpc.client",
      ["class|Binary Boolean=builtins:bool BytesIO=_io:BytesIO DateTime",
        "class|Decimal=decimal:Decimal Error ExpatParser Fault GzipDecodedResponse",
        "class|Marshaller MultiCall MultiCallIterator ProtocolError ResponseError",
        "class|SafeTransport Server=xmlrpc.client:ServerProxy ServerProxy Transport",
        "class|Unmarshaller boolean=builtins:bool datetime=datetime:datetime",
        "function|dumps escape getparser gzip_decode gzip_encode loads",
        "module|base64 errno expat=xml.parsers.expat gzip http sys time urllib",
        "of NoneType|FastMarshaller FastParser FastUnmarshaller",
        "of int|APPLICATION_ERROR INTERNAL_ERROR INVALID_ENCODING_CHAR",
        "of int|INVALID_METHOD_PARAMS INVALID_XMLRPC MAXINT METHOD_NOT_FOUND MININT",
        "of int|NOT_WELLFORMED_ERROR PARSE_ERROR SERVER_ERROR SYSTEM_ERROR",
        "of int|TRANSPORT_ERROR UNSUPPORTED_ENCODING",
        "of str|__version__",
        "of tuple|WRAPPERS"]),
    ("xmlrpc.server",
      ["class|BaseHTTPRequestHandler=http.server:BaseHTTPRequestHandler",
        "class|CGIXMLRPCRequestHandler DocCGIXMLRPCRequestHandler DocXMLRPCRequestHandler",
        "class|DocXMLRPCServer Fault=xmlrpc.client:Fault MultiPathXMLRPCServer",
        "class|ServerHTMLDoc SimpleXMLRPCDispatcher SimpleXMLRPCRequestHandler",
        "class|SimpleXMLRPCServer XMLRPCDocGenerator partial=functools:partial",
        "function|dumps gzip_decode gzip_encode list_public_methods loads",
        "function|resolve_dotted_attribute signature",
        "module|fcntl html http os pydoc re socketserver sys traceback"]),
    ("xxsubtype",
      ["builtin|bench",
        "class|spamdict spamlist"]),
    ("zipapp",
      ["exception|ZipAppError",
        "function|create_archive get_interpreter main",
        "hidden|MAIN_TEMPLATE contextlib main os pathlib shebang_encoding shutil stat sys",
        "hidden|zipfile",
        "module|contextlib os pathlib shutil stat sys zipfile",
        "of list|__all__",
        "of str|MAIN_TEMPLATE shebang_encoding"]),
    ("zipfile",
      ["builtin|crc32",
        "class|CompleteDirs FastLookup LZMACompressor LZMADecompressor Path PyZipFile",
        "class|ZipExtFile ZipFile ZipInfo",
        "exception|BadZipFile BadZipfile=zipfile:BadZipFile LargeZipFile",
        "exception|error=zipfile:BadZipFile",
        "function|is_zipfile main",
        "hidden|BZIP2_VERSION CompleteDirs DEFAULT_VERSION FastLookup LZMACompressor",
        "hidden|LZMADecompressor LZMA_VERSION MAX_EXTRACT_VERSION ZIP64_LIMIT",
        "hidden|ZIP64_VERSION ZIP_FILECOUNT_LIMIT ZIP_MAX_COMMENT ZipExtFile binascii bz2",
        "hidden|compressor_names contextlib crc32 importlib io itertools lzma main os",
        "hidden|pathlib posixpath re shutil sizeCentralDir sizeEndCentDir",
        "hidden|sizeEndCentDir64 sizeEndCentDir64Locator sizeFileHeader stat",
        "hidden|stringCentralDir stringEndArchive stringEndArchive64",
        "hidden|stringEndArchive64Locator stringFileHeader struct structCentralDir",
        "hidden|structEndArchive structEndArchive64 structEndArchive64Locator",
        "hidden|structFileHeader sys threading time zlib",
        "module|binascii bz2 contextlib importlib io itertools lzma os pathlib posixpath",
        "module|re shutil stat struct sys threading time zlib",
        "of bytes|stringCentralDir stringEndArchive stringEndArchive64",
        "of bytes|stringEndArchive64Locator stringFileHeader structEndArchive",
        "of dict|compressor_names",
        "of int|BZIP2_VERSION DEFAULT_VERSION LZMA_VERSION MAX_EXTRACT_VERSION",
        "of int|ZIP64_LIMIT ZIP64_VERSION ZIP_BZIP2 ZIP_DEFLATED ZIP_FILECOUNT_LIMIT",
        "of int|ZIP_LZMA ZIP_MAX_COMMENT ZIP_STORED sizeCentralDir sizeEndCentDir",
        "of int|sizeEndCentDir64 sizeEndCentDir64Locator sizeFileHeader",
        "of list|__all__",
        "of str|structCentralDir structEndArchive64 structEndArchive64Locator",
        "of str|structFileHeader"]),
    ("zipimport",
      ["class|zipimporter",
        "exception|ZipImportError",
        "hidden|END_CENTRAL_DIR_SIZE MAX_COMMENT_LEN STRING_END_ARCHIVE alt_path_sep",
        "hidden|cp437_table marshal path_sep sys time",
        "module|marshal sys time",
        "of bytes|STRING_END_ARCHIVE",
        "of int|END_CENTRAL_DIR_SIZE MAX_COMMENT_LEN",
        "of list|__all__",
        "of str|alt_path_sep cp437_table path_sep"]),
    ("zlib",
      ["builtin|adler32 compress compressobj crc32 decompress decompressobj",
        "exception|error",
        "of int|DEFLATED DEF_BUF_SIZE DEF_MEM_LEVEL MAX_WBITS Z_BEST_COMPRESSION",
        "of int|Z_BEST_SPEED Z_BLOCK Z_DEFAULT_COMPRESSION Z_DEFAULT_STRATEGY Z_FILTERED",
        "of int|Z_FINISH Z_FIXED Z_FULL_FLUSH Z_HUFFMAN_ONLY Z_NO_COMPRESSION Z_NO_FLUSH",
        "of int|Z_PARTIAL_FLUSH Z_RLE Z_SYNC_FLUSH Z_TREES",
        "of str|ZLIB_RUNTIME_VERSION ZLIB_VERSION __version__"]) ]

def furtherMemberData : List (String × List String) :=
  memberDataAToC ++ memberDataDToH ++ memberDataIToM ++ memberDataNToS ++ memberDataTToZ

end SqlScaffold.Load
