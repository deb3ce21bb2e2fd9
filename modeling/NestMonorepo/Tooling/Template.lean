/-! # Files of the template

The files that the scaffold edits, line by line, as they stand in the repository. A file is cut
at the lines that the scaffold looks for.
-/

namespace NestMonorepo

/-- A file with anchors. -/
inductive TemplateFile
  | queueConstants
  | messagingModule
  | rpcClientService
  | dockerCompose
  | deployWorkflow
  deriving DecidableEq

namespace TemplateFile

def path : TemplateFile → String
  | queueConstants => "libs/common/src/constants/queue.constants.ts"
  | messagingModule => "libs/messaging/src/messaging.module.ts"
  | rpcClientService => "libs/common/src/services/rpc-client.service.ts"
  | dockerCompose => "docker-compose.yml"
  | deployWorkflow => ".github/workflows/deploy.yml"

/-! ## libs/common/src/constants/queue.constants.ts -/

def queueConstantsHead : List String :=
  [ "/**",
    " * RMQ queue names, one per microservice. The gateway resolves a peer's queue",
    " * via SERVICE_TOKENS → QUEUES; each microservice declares its own in its",
    " * bootstrapService() call. Add a new service here, in SERVICE_TOKENS, and in",
    " * MessagingModule's ALL_SERVICES list to wire it into the RPC client.",
    " */"]

def queueConstantsPatterns : List String :=
  [ "\x7d as const;",
    "",
    "/**",
    " * Returns the stage (dev/staging/prod/...) used to namespace RMQ queues.",
    " * Pull from RMQ_QUEUE_PREFIX if set, else fall back to NODE_ENV.",
    " * Must resolve the same on gateway and microservice or they won't connect.",
    " */",
    "export function getQueuePrefix(): string \x7b",
    "  const explicit = process.env['RMQ_QUEUE_PREFIX'];",
    "  if (explicit && explicit.trim()) return explicit.trim();",
    "  const env = process.env['NODE_ENV']?.trim() ?? 'dev';",
    "  return env;",
    "\x7d",
    "",
    "export function prefixedQueue(queue: string): string \x7b",
    "  return `$\x7bgetQueuePrefix()\x7d_$\x7bqueue\x7d`;",
    "\x7d",
    "",
    "/** Topic exchanges for fan-out domain events (see EventBusService). */",
    "/**",
    " * RPC message patterns. Each is a `@MessagePattern` handler on some",
    " * microservice and a `rpc.<service>(MSG.X, payload)` call on the gateway.",
    " */",
    "export const MSG = \x7b",
    "  // Generic — every microservice answers this so the gateway /health",
    "  // probe can tell whether each backend is reachable.",
    "  PING: 'ping',",
    "",
    "  // ─── Auth / user identity (handled by user-service) ───────────────────────",
    "  CREATE_AUTOREG_USER: 'create_autoreg_user',",
    "  LOGIN_USER: 'login_user',",
    "  UPGRADE_USER_ACCOUNT: 'upgrade_user_account',",
    "  FIND_OR_CREATE_OAUTH_USER: 'find_or_create_oauth_user',",
    "  FORGOT_PASSWORD: 'forgot_password',",
    "  RESET_PASSWORD: 'reset_password',",
    "",
    "  // ─── User profile ─────────────────────────────────────────────────────────",
    "  GET_USER_BY_ID: 'get_user_by_id',",
    "  // Minimal-exposure read for /auth/refresh — returns only the current",
    "  // `tokenVersion` so the refresh handler can compare it to the `tv` claim",
    "  // in the presented refresh JWT. Doesn't leak any other user state.",
    "  GET_USER_TOKEN_VERSION: 'get_user_token_version',",
    "  UPDATE_USER: 'update_user',",
    "  DELETE_USER: 'delete_user',",
    "\x7d as const;",
    ""]

def queueConstantsTail : List String :=
  [ "\x7d as const;"]

def queueConstantsLines : List String :=
  queueConstantsHead ++ ["export const QUEUES = \x7b", "  USER_SERVICE: 'user_service_queue',"] ++
    queueConstantsPatterns ++
    ["export const SERVICE_TOKENS = \x7b", "  USER_SERVICE: 'USER_SERVICE',"] ++
    queueConstantsTail

/-! ## libs/messaging/src/messaging.module.ts -/

def messagingModuleHead : List String :=
  [ "import \x7b DynamicModule, Module, Provider \x7d from '@nestjs/common';",
    "import \x7b APP_INTERCEPTOR \x7d from '@nestjs/core';",
    "import \x7b ClientsModule, Transport \x7d from '@nestjs/microservices';",
    "import \x7b",
    "  EVENT_BUS_TOKEN,",
    "  QUEUES,",
    "  RpcClientService,",
    "  SERVICE_TOKENS,",
    "  prefixedQueue,",
    "\x7d from '@app/common';",
    "import \x7b CustomAmqpProxy \x7d from './amqp/custom-amqp-proxy';",
    "import \x7b EventBusService, EVENT_BUS_OPTIONS \x7d from './amqp/event-bus.service';",
    "import \x7b",
    "  DLQ_SERVICE_NAME,",
    "  EventDeadLetterInterceptor,",
    "\x7d from './amqp/event-dead-letter.interceptor';",
    "",
    "export \x7b EventBusService, EVENT_BUS_OPTIONS \x7d from './amqp/event-bus.service';",
    "export \x7b",
    "  DLQ_SERVICE_NAME,",
    "  EventDeadLetterInterceptor,",
    "\x7d from './amqp/event-dead-letter.interceptor';",
    "",
    "/**",
    " * NestJS RMQ transport is NOT a pub/sub bus on its own — `client.emit`",
    " * publishes straight to a queue. Two paths are wired here:",
    " *",
    " *   - Direct queue delivery: `RpcClientService.emit(service, pattern,",
    " *     payload)` → one specific peer queue. Use for point-to-point",
    " *     side channels (cache invalidation, etc.).",
    " *   - Topic-exchange fan-out: `RpcClientService.publishEvent(pattern,",
    " *     payload)` → shared exchange `<stage>_events` → every consumer queue",
    " *     bound to the routing pattern. Use for domain events with multiple",
    " *     subscribers.",
    " *",
    " * Failed handlers go to the per-service DLQ (see EventDeadLetterInterceptor)",
    " * so we don't silently drop events.",
    " *",
    " * Adding a microservice: register its token in SERVICE_TOKENS + queue in",
    " * QUEUES, then add the key to ALL_SERVICES and QUEUE_BY_TOKEN below.",
    " */",
    "",
    "export interface MessagingModuleOptions \x7b",
    "  url: string;",
    "  /**",
    "   * If set, the EventBusService binds this queue to the events topic",
    "   * exchange for every routing key in `subscribesTo`. Microservices",
    "   * pass their own queue name; gateway leaves it undefined (publish-only).",
    "   */",
    "  selfQueue?: string;",
    "  /** Routing keys this service wants delivered into selfQueue. */",
    "  subscribesTo?: string[];",
    "\x7d",
    "",
    "type ServiceKey = keyof typeof SERVICE_TOKENS;",
    ""]

def messagingModuleBetween : List String :=
  [ "",
    "const QUEUE_BY_TOKEN: Record<string, string> = \x7b"]

def messagingModuleTail : List String :=
  [ "\x7d;",
    "",
    "/**",
    " * ClientProxy stand-in for peers we didn't register — calling it throws with",
    " * a clear message so misconfigurations surface loudly instead of hanging on",
    " * a 15s RPC timeout. Used by `forPeers()` to keep `RpcClientService` happy.",
    " */",
    "class MissingPeerClient \x7b",
    "  constructor(private readonly serviceName: string) \x7b\x7d",
    "  private fail(): never \x7b",
    "    throw new Error(",
    "      `RPC to '$\x7bthis.serviceName\x7d' is not configured for this service. Add it to MessagingModule.forPeers([...]).`,",
    "    );",
    "  \x7d",
    "  send() \x7b",
    "    this.fail();",
    "  \x7d",
    "  emit() \x7b",
    "    this.fail();",
    "  \x7d",
    "  // ClientProxy exposes other methods we don't care about; the ones above are",
    "  // the only hot paths our RpcClientService touches.",
    "\x7d",
    "",
    "@Module(\x7b\x7d)",
    "export class MessagingModule \x7b",
    "  /** Full setup for the gateway: clients for every microservice + RpcClientService. */",
    "  static forRoot(options: MessagingModuleOptions): DynamicModule \x7b",
    "    return this.build(options, ALL_SERVICES, true);",
    "  \x7d",
    "",
    "  /**",
    "   * Subset registration for microservices. Pass the peer services this",
    "   * microservice needs to call. RpcClientService is always wired so services",
    "   * can use `rpc.user(...)` uniformly; unrequested peers get a stub client",
    "   * that throws on use.",
    "   */",
    "  static forPeers(",
    "    options: MessagingModuleOptions,",
    "    peers: ServiceKey[],",
    "  ): DynamicModule \x7b",
    "    // Global so peer-aware services can inject RpcClientService from any",
    "    // module without wiring MessagingModule into every feature module.",
    "    return this.build(options, peers, true);",
    "  \x7d",
    "",
    "  private static build(",
    "    options: MessagingModuleOptions,",
    "    peers: ServiceKey[],",
    "    global: boolean,",
    "  ): DynamicModule \x7b",
    "    const registered = new Set(peers);",
    "    const imports = peers.length",
    "      ? [",
    "          ClientsModule.register(",
    "            peers.map((key) => (\x7b",
    "              name: SERVICE_TOKENS[key],",
    "              transport: Transport.RMQ,",
    "              customClass: CustomAmqpProxy,",
    "              options: \x7b",
    "                urls: [options.url],",
    "                queue: prefixedQueue(QUEUE_BY_TOKEN[SERVICE_TOKENS[key]]),",
    "                queueOptions: \x7b durable: true \x7d,",
    "                noAck: true,",
    "                prefetchCount: 10,",
    "              \x7d,",
    "            \x7d)),",
    "          ),",
    "        ]",
    "      : [];",
    "",
    "    // Stub providers for every service NOT in peers — RpcClientService's",
    "    // constructor needs all tokens resolvable.",
    "    const stubProviders: Provider[] = ALL_SERVICES.filter(",
    "      (k) => !registered.has(k),",
    "    ).map((k) => (\x7b",
    "      provide: SERVICE_TOKENS[k],",
    "      useValue: new MissingPeerClient(SERVICE_TOKENS[k]),",
    "    \x7d));",
    "",
    "    const busProvider: Provider = \x7b",
    "      provide: EVENT_BUS_OPTIONS,",
    "      useValue: \x7b",
    "        url: options.url,",
    "        selfQueue: options.selfQueue",
    "          ? prefixedQueue(options.selfQueue)",
    "          : undefined,",
    "        subscribesTo: options.subscribesTo,",
    "        deadLetterQueue: options.selfQueue",
    "          ? prefixedQueue(`$\x7boptions.selfQueue\x7d.dlq`)",
    "          : undefined,",
    "      \x7d,",
    "    \x7d;",
    "",
    "    // DLQ routing key matches the prefixed selfQueue so EventBusService's",
    "    // bindQueue(dlq, dlx, selfQueue) and interceptor's publish(dlx, selfQueue, …)",
    "    // hit the same key.",
    "    const serviceNameProvider: Provider = \x7b",
    "      provide: DLQ_SERVICE_NAME,",
    "      useValue: options.selfQueue",
    "        ? prefixedQueue(options.selfQueue)",
    "        : 'gateway',",
    "    \x7d;",
    "",
    "    return \x7b",
    "      module: MessagingModule,",
    "      global,",
    "      imports,",
    "      providers: [",
    "        ...stubProviders,",
    "        busProvider,",
    "        serviceNameProvider,",
    "        EventBusService,",
    "        // Build the interceptor via factory so DI fully resolves bus +",
    "        // service-name at construction time. Plain APP_INTERCEPTOR /",
    "        // useExisting hit a registration-order issue where bus came in null.",
    "        \x7b",
    "          provide: APP_INTERCEPTOR,",
    "          useFactory: (bus: EventBusService, name: string) =>",
    "            new EventDeadLetterInterceptor(bus, name),",
    "          inject: [EventBusService, DLQ_SERVICE_NAME],",
    "        \x7d,",
    "        // Alias under the symbol RpcClientService injects via @Optional()",
    "        \x7b provide: EVENT_BUS_TOKEN, useExisting: EventBusService \x7d,",
    "        RpcClientService,",
    "      ],",
    "      // Only re-export ClientsModule if it was actually imported. Services",
    "      // with no peers (publish-only) get an empty `imports`, and exporting a",
    "      // never-registered module trips `UnknownExportException` in Nest's",
    "      // dependency scanner.",
    "      exports: [",
    "        ...(peers.length ? [ClientsModule] : []),",
    "        RpcClientService,",
    "        EventBusService,",
    "      ],",
    "    \x7d;",
    "  \x7d",
    "\x7d"]

def messagingModuleLines : List String :=
  messagingModuleHead ++ ["const ALL_SERVICES: ServiceKey[] = ['USER_SERVICE'];"] ++
    messagingModuleBetween ++ ["  [SERVICE_TOKENS.USER_SERVICE]: QUEUES.USER_SERVICE,"] ++
    messagingModuleTail

/-! ## libs/common/src/services/rpc-client.service.ts -/

def rpcClientServiceHead : List String :=
  [ "import \x7b",
    "  GatewayTimeoutException,",
    "  HttpException,",
    "  Inject,",
    "  Injectable,",
    "  Logger,",
    "  Optional,",
    "  ServiceUnavailableException,",
    "\x7d from '@nestjs/common';",
    "import \x7b ClientProxy \x7d from '@nestjs/microservices';",
    "import \x7b firstValueFrom, TimeoutError \x7d from 'rxjs';",
    "import \x7b catchError, timeout \x7d from 'rxjs/operators';",
    "import \x7b SERVICE_TOKENS \x7d from '../constants/queue.constants';",
    "import \x7b getTraceId \x7d from '../context/async-storage';",
    "import \x7b ERROR_CODES \x7d from '../dto/error-response.dto';",
    "import \x7b isRpcErrorPayload \x7d from '../exceptions/rpc.exception';",
    "",
    "/**",
    " * Minimal interface for the publish bus we delegate to. Defined here so",
    " * libs/common doesn't depend on libs/messaging (which would create a cycle).",
    " * libs/messaging exports EventBusService that conforms to this shape.",
    " */",
    "export interface IEventBus \x7b",
    "  publish(pattern: string, payload: object): boolean;",
    "\x7d",
    "",
    "export const EVENT_BUS_TOKEN = Symbol('IEventBus');",
    "",
    "/** Service names callers route to. Add a member per microservice you wire. */"]

def rpcClientServiceClass : List String :=
  [ "",
    "const DEFAULT_TIMEOUT_MS = 15_000;",
    "",
    "/**",
    " * Single injection point for all gateway → microservice RPC calls.",
    " *",
    " * Replaces the verbose `firstValueFrom(this.userClient.send(MSG.Y, \x7b...\x7d))`",
    " * pattern. Provides:",
    " *   - typed service routing (.user — add .yourService when you add a peer)",
    " *   - unified timeout (15s default)",
    " *   - error envelope unwrapping → HttpException with correct status",
    " *   - automatic traceId propagation via CustomAmqpProxy",
    " *",
    " * Usage in gateway controllers:",
    " *   constructor(private readonly rpc: RpcClientService) \x7b\x7d",
    " *   getMe(user) \x7b",
    " *     return this.rpc.user<UserDto>(MSG.GET_USER_BY_ID, \x7b userId: user.userId \x7d);",
    " *   \x7d",
    " *",
    " * To add a microservice: register its token in SERVICE_TOKENS, add it to",
    " * MessagingModule's ALL_SERVICES, inject the client below, and add a routing",
    " * helper mirroring `user()`.",
    " */",
    "@Injectable()",
    "export class RpcClientService \x7b",
    "  private readonly logger = new Logger(RpcClientService.name);",
    "",
    "  constructor("]

def rpcClientServiceConstructor : List String :=
  [ "    @Optional()",
    "    @Inject(EVENT_BUS_TOKEN)",
    "    private readonly eventBus: IEventBus | null = null,",
    "  ) \x7b\x7d",
    "",
    "  user<T = unknown>(",
    "    pattern: string,",
    "    payload: object = \x7b\x7d,",
    "    timeoutMs?: number,",
    "  ): Promise<T> \x7b"]

def rpcClientServiceEvents : List String :=
  [ "",
    "  /**",
    "   * Fire-and-forget event emission to ONE service queue.",
    "   *",
    "   * Direct queue delivery — `client.emit()` writes straight to the target",
    "   * service's queue, NOT through the topic exchange. Use this for",
    "   * point-to-point side channels (e.g. cache invalidation aimed at one",
    "   * peer). For fan-out (many subscribers, one publish), use",
    "   * \x7b@link publishEvent\x7d.",
    "   */",
    "  emit(service: ServiceName, pattern: string, payload: object = \x7b\x7d): void \x7b",
    "    const client = this.pickClient(service);",
    "    try \x7b",
    "      client.emit(pattern, payload).subscribe(\x7b",
    "        error: (err: Error) => \x7b",
    "          this.logger.warn(`emit $\x7bservice\x7d.$\x7bpattern\x7d failed: $\x7berr.message\x7d`);",
    "        \x7d,",
    "      \x7d);",
    "    \x7d catch (err) \x7b",
    "      // Peer not configured in MessagingModule.forPeers — stub client throws",
    "      // synchronously. Downgrade to debug; callers that need strict delivery",
    "      // should handle the failure themselves.",
    "      this.logger.debug(",
    "        `emit $\x7bservice\x7d.$\x7bpattern\x7d skipped: $\x7b(err as Error).message\x7d`,",
    "      );",
    "    \x7d",
    "  \x7d",
    "",
    "  /**",
    "   * Publish a fan-out event to the topic exchange. Every service whose queue",
    "   * is bound to the matching routing key receives a copy. Fire-and-forget;",
    "   * durability is the outbox dispatcher's job.",
    "   *",
    "   * In environments without `EventBusService` wired (unit tests with a",
    "   * stripped MessagingModule) the call logs and drops.",
    "   */",
    "  publishEvent(pattern: string, payload: object = \x7b\x7d): void \x7b",
    "    if (!this.eventBus) \x7b",
    "      this.logger.debug(",
    "        `publishEvent($\x7bpattern\x7d) skipped — EventBusService not wired`,",
    "      );",
    "      return;",
    "    \x7d",
    "    try \x7b",
    "      this.eventBus.publish(pattern, payload);",
    "    \x7d catch (err) \x7b",
    "      this.logger.warn(",
    "        `event-bus publish $\x7bpattern\x7d failed: $\x7b(err as Error).message\x7d`,",
    "      );",
    "    \x7d",
    "  \x7d",
    "",
    "  private pickClient(service: ServiceName): ClientProxy \x7b"]

def rpcClientServiceTail : List String :=
  [ "    // Exhaustive: extend ServiceName + this switch when adding peers.",
    "    throw new Error(`Unknown RPC service '$\x7bservice as string\x7d'`);",
    "  \x7d",
    "",
    "  private async send<T>(",
    "    service: string,",
    "    client: ClientProxy,",
    "    pattern: string,",
    "    payload: object,",
    "    timeoutMs = DEFAULT_TIMEOUT_MS,",
    "  ): Promise<T> \x7b",
    "    try \x7b",
    "      return await firstValueFrom(",
    "        client.send<T>(pattern, payload).pipe(",
    "          timeout(timeoutMs),",
    "          catchError((err: unknown) => \x7b",
    "            throw this.unwrapError(service, pattern, err);",
    "          \x7d),",
    "        ),",
    "      );",
    "    \x7d catch (err) \x7b",
    "      if (err instanceof HttpException) throw err;",
    "      throw this.unwrapError(service, pattern, err);",
    "    \x7d",
    "  \x7d",
    "",
    "  private unwrapError(service: string, pattern: string, err: unknown): Error \x7b",
    "    const traceId = getTraceId();",
    "",
    "    if (err instanceof TimeoutError) \x7b",
    "      this.logger.warn(`$\x7bservice\x7d.$\x7bpattern\x7d timeout [$\x7btraceId ?? '-'\x7d]`);",
    "      return new GatewayTimeoutException(\x7b",
    "        code: ERROR_CODES.INTERNAL_ERROR,",
    "        message: `Upstream service '$\x7bservice\x7d' timed out`,",
    "      \x7d);",
    "    \x7d",
    "",
    "    if (isRpcErrorPayload(err)) \x7b",
    "      return new HttpException(",
    "        \x7b",
    "          statusCode: err.status,",
    "          code: err.code,",
    "          message: err.message,",
    "          ...(err.details ? \x7b details: err.details \x7d : \x7b\x7d),",
    "        \x7d,",
    "        err.status,",
    "      );",
    "    \x7d",
    "",
    "    // NestJS wraps RpcException serialization as plain object — inspect common shapes",
    "    const maybe = err as \x7b error?: unknown; message?: string \x7d;",
    "    if (maybe?.error && isRpcErrorPayload(maybe.error)) \x7b",
    "      const p = maybe.error;",
    "      return new HttpException(",
    "        \x7b",
    "          statusCode: p.status,",
    "          code: p.code,",
    "          message: p.message,",
    "          ...(p.details ? \x7b details: p.details \x7d : \x7b\x7d),",
    "        \x7d,",
    "        p.status,",
    "      );",
    "    \x7d",
    "",
    "    this.logger.error(",
    "      `$\x7bservice\x7d.$\x7bpattern\x7d unknown error [$\x7btraceId ?? '-'\x7d]: $\x7bmaybe?.message ?? String(err)\x7d`,",
    "    );",
    "    return new ServiceUnavailableException(\x7b",
    "      code: ERROR_CODES.INTERNAL_ERROR,",
    "      message: `Upstream service '$\x7bservice\x7d' is unavailable`,",
    "    \x7d);",
    "  \x7d",
    "\x7d"]

def rpcClientServiceLines : List String :=
  rpcClientServiceHead ++ ["export type ServiceName = 'user';"] ++ rpcClientServiceClass ++
    ["    @Inject(SERVICE_TOKENS.USER_SERVICE)",
      "    private readonly userClient: ClientProxy,"] ++
    rpcClientServiceConstructor ++
    ["    return this.send<T>('user', this.userClient, pattern, payload, timeoutMs);", "  \x7d"] ++
    rpcClientServiceEvents ++ ["    if (service === 'user') return this.userClient;"] ++
    rpcClientServiceTail

/-! ## docker-compose.yml -/

def dockerComposeHead : List String :=
  [ "services:",
    "  mongodb:",
    "    image: mongo:8",
    "    container_name: app-mongo",
    "    restart: unless-stopped",
    "    ports:",
    "      - '27017:27017'",
    "    volumes:",
    "      - mongo-data:/data/db",
    "    environment:",
    "      MONGO_INITDB_DATABASE: app-dev",
    "    healthcheck:",
    "      test: ['CMD', 'mongosh', '--eval', 'db.adminCommand(\"ping\")']",
    "      interval: 10s",
    "      timeout: 5s",
    "      retries: 5",
    "      start_period: 20s",
    "",
    "  redis:",
    "    image: redis:7-alpine",
    "    container_name: app-redis",
    "    restart: unless-stopped",
    "    ports:",
    "      - '6379:6379'",
    "    volumes:",
    "      - redis-data:/data",
    "    command: redis-server --appendonly yes",
    "    healthcheck:",
    "      test: ['CMD', 'redis-cli', 'ping']",
    "      interval: 10s",
    "      timeout: 5s",
    "      retries: 5",
    "",
    "  rabbitmq:",
    "    image: rabbitmq:3.13-management",
    "    container_name: app-rabbitmq",
    "    restart: unless-stopped",
    "    ports:",
    "      - '5672:5672' # AMQP",
    "      - '15672:15672' # Management UI",
    "    volumes:",
    "      - rabbitmq-data:/var/lib/rabbitmq",
    "    environment:",
    "      RABBITMQ_DEFAULT_USER: $\x7bRABBITMQ_USER:-guest\x7d",
    "      RABBITMQ_DEFAULT_PASS: $\x7bRABBITMQ_PASS:-guest\x7d",
    "    healthcheck:",
    "      test: ['CMD', 'rabbitmq-diagnostics', 'ping']",
    "      interval: 15s",
    "      timeout: 10s",
    "      retries: 5",
    "      start_period: 30s",
    "",
    "  gateway:",
    "    build:",
    "      context: .",
    "      dockerfile: Dockerfile",
    "      args:",
    "        SERVICE: gateway",
    "        RELEASE_TAG: $\x7bRELEASE_TAG:-dev-local\x7d",
    "    container_name: app-gateway",
    "    restart: unless-stopped",
    "    ports:",
    "      - '3000:3000'",
    "    env_file: .env",
    "    environment:",
    "      MONGO: mongodb://mongodb:27017",
    "      REDIS_URL: redis://redis:6379",
    "      RABBITMQ_URL: amqp://$\x7bRABBITMQ_USER:-guest\x7d:$\x7bRABBITMQ_PASS:-guest\x7d@rabbitmq:5672",
    "    depends_on:",
    "      mongodb:",
    "        condition: service_healthy",
    "      redis:",
    "        condition: service_healthy",
    "      rabbitmq:",
    "        condition: service_healthy",
    "",
    "  user:",
    "    build:",
    "      context: .",
    "      dockerfile: Dockerfile",
    "      args:",
    "        SERVICE: user",
    "        RELEASE_TAG: $\x7bRELEASE_TAG:-dev-local\x7d",
    "    container_name: app-user",
    "    restart: unless-stopped",
    "    env_file: .env",
    "    environment:",
    "      MONGO: mongodb://mongodb:27017",
    "      RABBITMQ_URL: amqp://$\x7bRABBITMQ_USER:-guest\x7d:$\x7bRABBITMQ_PASS:-guest\x7d@rabbitmq:5672",
    "    depends_on:",
    "      mongodb:",
    "        condition: service_healthy",
    "      rabbitmq:",
    "        condition: service_healthy"]

def dockerComposeTail : List String :=
  [ "  redis-data:",
    "  rabbitmq-data:"]

def dockerComposeLines : List String :=
  dockerComposeHead ++ ["", "volumes:", "  mongo-data:"] ++ dockerComposeTail

/-! ## .github/workflows/deploy.yml -/

def deployWorkflowHead : List String :=
  [ "name: CI/CD",
    "permissions:",
    "  contents: read",
    "  packages: write",
    "on:",
    "  workflow_dispatch:",
    "    inputs:",
    "      service:",
    "        description: 'Service or task (kebab-case, matches nest-cli.json project name)'",
    "        required: true",
    "        default: 'all'",
    "        type: choice",
    "        options:",
    "          - all"]

def deployWorkflowInputs : List String :=
  [ "          - task-user-purge",
    "          - task-db-migrate",
    "",
    "      stage:",
    "        description: 'Stage'",
    "        required: true",
    "        default: 'all'",
    "        type: choice",
    "        options:",
    "          - dev",
    "          - prod",
    "          - all",
    "",
    "env:",
    "  IMAGE_TAG: $\x7b\x7b github.sha \x7d\x7d",
    "  DEPLOY_REPO: 'lix-su/argo'",
    "  PROJECT: 'app-be'",
    "  # Long-running services that accept traffic / consume RPC."]

def deployWorkflowTail : List String :=
  [ "  # K8s CronJob / Job entry points — same Dockerfile, different entry module.",
    "  # Every entry here must exist as a project in nest-cli.json.",
    "  ALL_TASKS: task-user-purge,task-db-migrate",
    "  ALL_STAGES: dev,prod",
    "",
    "jobs:",
    "  set-matrix:",
    "    runs-on: ubuntu-latest",
    "    outputs:",
    "      full-matrix: $\x7b\x7b steps.set-matrix.outputs.full-matrix \x7d\x7d",
    "      services-matrix: $\x7b\x7b steps.set-matrix.outputs.services-matrix \x7d\x7d",
    "    steps:",
    "      - id: set-matrix",
    "        run: |",
    "          IFS=',' read -r -a SERVICES <<< \"$\x7bALL_SERVICES\x7d\"",
    "          IFS=',' read -r -a TASKS <<< \"$\x7bALL_TASKS\x7d\"",
    "          IFS=',' read -r -a STAGES <<< \"$\x7bALL_STAGES\x7d\"",
    "",
    "          # Artifact = services + tasks. Dockerfile treats them identically.",
    "          ARTIFACTS=(\"$\x7bSERVICES[@]\x7d\" \"$\x7bTASKS[@]\x7d\")",
    "",
    "          # Filter by workflow input. `all` keeps the full artifact list; a",
    "          # specific name narrows to just that artifact.",
    "          if [[ \"$\x7b\x7b github.event.inputs.service \x7d\x7d\" != \"all\" ]]; then",
    "            ARTIFACTS=(\"$\x7b\x7b github.event.inputs.service \x7d\x7d\")",
    "          fi",
    "          if [[ \"$\x7b\x7b github.event.inputs.stage \x7d\x7d\" != \"all\" ]]; then",
    "            STAGES=(\"$\x7b\x7b github.event.inputs.stage \x7d\x7d\")",
    "          fi",
    "",
    "          # deploy matrix: artifact × stage",
    "          FULL_MATRIX=$(jq -n \\",
    "            --argjson artifacts \"$(printf '%s\\n' \"$\x7bARTIFACTS[@]\x7d\" | jq -R . | jq -s .)\" \\",
    "            --argjson stages \"$(printf '%s\\n' \"$\x7bSTAGES[@]\x7d\" | jq -R . | jq -s .)\" \\",
    "            '\x7binclude: [$artifacts[] as $s | $stages[] as $st | \x7bservice: $s, stage: $st\x7d] \x7d')",
    "",
    "          # build matrix: one row per artifact (same image for all stages)",
    "          SERVICES_MATRIX=$(printf '%s\\n' \"$\x7bARTIFACTS[@]\x7d\" | jq -R . | jq -s '\x7bservice: .\x7d')",
    "",
    "          \x7b",
    "            echo \"full-matrix<<EOF\"",
    "            echo \"$FULL_MATRIX\"",
    "            echo \"EOF\"",
    "            echo \"services-matrix<<EOF\"",
    "            echo \"$SERVICES_MATRIX\"",
    "            echo \"EOF\"",
    "          \x7d >> $GITHUB_OUTPUT",
    "",
    "          echo \"Generated full matrix:\"",
    "          echo \"$FULL_MATRIX\"",
    "          echo \"Generated build matrix:\"",
    "          echo \"$SERVICES_MATRIX\"",
    "",
    "  build-and-push:",
    "    needs: set-matrix",
    "    runs-on: ubuntu-latest",
    "    strategy:",
    "      fail-fast: false",
    "      matrix: $\x7b\x7b fromJSON(needs.set-matrix.outputs.services-matrix) \x7d\x7d",
    "",
    "    steps:",
    "      - uses: actions/checkout@v4",
    "",
    "      - uses: docker/setup-buildx-action@v3",
    "",
    "      - uses: docker/login-action@v2",
    "        with:",
    "          registry: ghcr.io",
    "          username: $\x7b\x7b github.actor \x7d\x7d",
    "          password: $\x7b\x7b secrets.GITHUB_TOKEN \x7d\x7d",
    "",
    "      - uses: docker/build-push-action@v4",
    "        with:",
    "          context: .",
    "          file: ./Dockerfile",
    "          push: true",
    "          build-args: |",
    "            SERVICE=$\x7b\x7b matrix.service \x7d\x7d",
    "            RELEASE_TAG=$\x7b\x7b github.sha \x7d\x7d",
    "          secrets: |",
    "            sentry_auth_token=$\x7b\x7b secrets.SENTRY_AUTH_TOKEN \x7d\x7d",
    "          cache-from: type=gha",
    "          cache-to: type=gha,mode=max",
    "          tags: |",
    "            ghcr.io/$\x7b\x7b github.repository \x7d\x7d/$\x7b\x7b matrix.service \x7d\x7d:$\x7b\x7b env.IMAGE_TAG \x7d\x7d",
    "",
    "  deploy-argo:",
    "    needs: [build-and-push, set-matrix]",
    "    runs-on: ubuntu-latest",
    "    strategy:",
    "      max-parallel: 1",
    "      fail-fast: false",
    "      matrix: $\x7b\x7b fromJSON(needs.set-matrix.outputs.full-matrix) \x7d\x7d",
    "",
    "    steps:",
    "      - uses: actions/checkout@v4",
    "",
    "      - uses: ./.github/actions/update-image",
    "        with:",
    "          registry: ghcr.io",
    "          repo: $\x7b\x7b env.DEPLOY_REPO \x7d\x7d",
    "          service: $\x7b\x7b matrix.service \x7d\x7d",
    "          tag: $\x7b\x7b env.IMAGE_TAG \x7d\x7d",
    "          ssh-key: \"$\x7b\x7b secrets.SSH_KEY \x7d\x7d\"",
    "          kustomize-path: $\x7b\x7b matrix.stage \x7d\x7d",
    "          image: $\x7b\x7b env.PROJECT \x7d\x7d-$\x7b\x7b matrix.service \x7d\x7d-image"]

def deployWorkflowLines : List String :=
  deployWorkflowHead ++ ["          - gateway", "          - user"] ++ deployWorkflowInputs ++
    ["  ALL_SERVICES: gateway,user"] ++ deployWorkflowTail

def lines : TemplateFile → List String
  | queueConstants => queueConstantsLines
  | messagingModule => messagingModuleLines
  | rpcClientService => rpcClientServiceLines
  | dockerCompose => dockerComposeLines
  | deployWorkflow => deployWorkflowLines

end TemplateFile

end NestMonorepo
